import SupplyGate.Proofs.Gate.TwinRuns
import SupplyGate.Proofs.Policy.StorableUpdates
import SupplyGate.Proofs.Policy.Trail
import SupplyGate.Proofs.Session.Expiry
import SupplyGate.Proofs.Time.Timestamps

/-!
# Policies of twins

From twins, the policies of tenants are created, updated, deleted and looked up alike, and exceptions are granted,
revoked and expired alike: what the one gate answers is what the other answers, or the other answers with what its
document gives.
-/

namespace SupplyGate

/-- An id that may be given: a text, or a value that stands for nothing. -/
def Value.MayName (id : Value) : Prop := id.truthy = true → id.IsText

/-- Rows can hold the policies that the source gives, and they may be given an id that is a text. -/
def PolicySource.Kept (source : PolicySource) : Prop :=
  ∀ now p, now.Fixed → source.policy now = .ok p → p.Storable ∧ p.id.MayName

namespace Gate

open Mirrored

/-! ## Creating -/

section Creating

variable {tenantId createdBy : Value}

theorem agree_withRuleId {r : Rule} (hr : r.Kept) : Agree (Both Rule.Kept) (withRuleId r) (withRuleId r) := by
  refine (agree_orFresh (F := Value.Storable) .rule .str fun _ => hr.id).bind fun id id' h => .pure ?_
  obtain ⟨rfl, hid⟩ := h
  exact ⟨rfl, hr.withId hid⟩

theorem agree_enterPolicy {source : PolicySource} (hsource : source.Kept) (htenant : tenantId.IsText)
    (hby : createdBy.Storable) :
    Agree (Both Policy.Kept) (enterPolicy tenantId source createdBy) (enterPolicy tenantId source createdBy) := by
  refine agree_clock.bind fun now now' h => ?_
  obtain ⟨rfl, hnow⟩ := h
  refine (Agree.ofReading fun p => hsource now' p hnow).bind fun p p' h => ?_
  obtain ⟨rfl, hp, hname⟩ := h
  refine (Agree.ofReading (F := fun _ => True) fun _ _ => trivial).bind fun _ _ _ => ?_
  refine (agree_orFresh (F := Value.IsText) .policy (fun s => ⟨s, rfl⟩) hname).bind fun id id' h => ?_
  obtain ⟨rfl, hid⟩ := h
  refine (Agree.mapM_both (F := Rule.Kept) (forall₂_graph.mpr ⟨(List.map_id _).symm, hp.rules⟩)
    fun r r' h => ?_).bind fun rules rules' h => ?_
  · obtain ⟨rfl, hr⟩ := h
    exact agree_withRuleId hr
  obtain ⟨rfl, hrules⟩ := h
  have hstored : Policy.Kept { p' with
      id := id', tenantId, rules := rules', createdAt := now', updatedAt := now', createdBy } :=
    { hp with
      id := hid
      tenantId := htenant
      rules := hrules
      createdAt := hnow
      updatedAt := hnow
      createdBy := hby }
  exact (agree_add twinned_policies hstored (.refl _)).bind fun _ _ _ => .pure ⟨rfl, hstored⟩

/-- A policy is created alike. -/
theorem agree_createPolicy {source : PolicySource} (hsource : source.Kept) (htenant : tenantId.IsText)
    (hby : createdBy.Storable) :
    Agree (Both Policy.Kept) (createPolicy tenantId source createdBy) (createPolicy tenantId source createdBy) := by
  refine (agree_enterPolicy hsource htenant hby).bind fun stored stored' h => ?_
  obtain ⟨rfl, hstored⟩ := h
  exact (agree_logValues _).bind fun _ _ _ => (agree_publish rfl).bind fun _ _ _ => .pure ⟨rfl, hstored⟩

theorem agree_getTemplate (templateId : Value) :
    Agree (Both (· ∈ Template.all)) (getTemplate templateId) (getTemplate templateId) := by
  unfold getTemplate
  have hkey : Agree (Both fun _ => True) (ofReading templateId.asScalar) (ofReading templateId.asScalar) :=
    .ofReading fun _ _ => trivial
  refine hkey.discard.bind fun _ _ _ => ?_
  cases hfound : Template.find? templateId with
  | none => exact .throw
  | some t => exact .pure ⟨rfl, List.mem_of_find?_eq_some hfound⟩

/-- Rows can hold what is chosen, and the rules of the template are left as they are. -/
structure TemplateChoice.Kept (choice : TemplateChoice) : Prop where
  name : choice.name.Storable
  scope : ∀ s, choice.scope = some s → s.toDoc.Storable
  edits : choice.edits = []
  policyId : choice.policyId.MayName

theorem agree_templateRule {r : Rule} (hr : r.Kept) : Agree (Both Rule.Kept) (templateRule [] r) (templateRule [] r) := by
  refine (agree_fresh .rule).bind fun id id' h => ?_
  obtain ⟨rfl, s, rfl⟩ := h
  exact .pure ⟨rfl, hr.withId (.str s)⟩

theorem kept_templateMetadata {t : Template} (ht : t ∈ Template.all) {now next : Timestamp} (hnow : now.Fixed)
    (hnext : next.Fixed) (hby : createdBy.Storable) : (templateMetadata t now next createdBy).Kept where
  documented := {
    lastReview := fun t ht => Option.some.inj ht ▸ hnow
    nextReview := fun t ht => Option.some.inj ht ▸ hnext
    changeLog := List.forall_mem_singleton.mpr fun t ht => Option.some.inj ht ▸ hnow }
  storable := by
    have hframework := Template.storable_framework t ht
    simp [PolicyMetadata.toDoc, templateMetadata, PolicyChange.toDoc, hby, hframework, List.nodup_cons]

/-- A template gives one policy. -/
theorem agree_draftFromTemplate {templateId : Value} {choice : TemplateChoice} (hchoice : choice.Kept)
    (hby : createdBy.Storable) :
    Agree (Both fun p => (PolicySource.record p).Kept) (draftFromTemplate tenantId templateId choice createdBy)
      (draftFromTemplate tenantId templateId choice createdBy) := by
  refine (agree_getTemplate templateId).bind fun t t' h => ?_
  obtain ⟨rfl, ht⟩ := h
  refine agree_clock.bind fun now now' h => ?_
  obtain ⟨rfl, hnow⟩ := h
  refine (Agree.mapM_both (F := Rule.Kept) (forall₂_graph.mpr ⟨(List.map_id _).symm, Template.kept_rules t' ht⟩)
    fun r r' h => ?_).bind fun rules rules' h => ?_
  · obtain ⟨rfl, hr⟩ := h
    rw [hchoice.edits]
    exact agree_templateRule hr
  obtain ⟨rfl, hrules⟩ := h
  refine (agree_orFresh (F := Value.IsText) .policy (fun s => ⟨s, rfl⟩) hchoice.policyId).bind fun id id' h => ?_
  obtain ⟨rfl, hid⟩ := h
  dsimp only
  cases hnext : now'.addDays? templateReviewDays with
  | none => exact Agree.bind (R := fun _ _ => False) .throw fun _ _ h => h.elim
  | some next =>
    have hnextFixed : next.Fixed := by
      rw [(Timestamp.addDays?_eq_some hnext).1]
      exact hnow
    have hscope : (choice.scope.getD t'.defaultScope).toDoc.Storable := by
      cases hs : choice.scope with
      | none => exact Template.storable_scope t' ht
      | some s => exact hchoice.scope s hs
    dsimp only
    rw [pure_bind]
    refine .pure ⟨rfl, fun _ p _ hp => ?_⟩
    cases hp
    exact ⟨{
      name := hchoice.name.orElse (.str _)
      description := .str _
      version := ⟨_, rfl⟩
      enabled := .bool _
      priority := .int _
      scope := ⟨_, rfl, hscope⟩
      rules := hrules
      enforcement := ⟨_, rfl, by simp [Enforcement.standard, Enforcement.toDoc]⟩
      exceptions := ⟨[], rfl, by simp⟩
      metadata := kept_templateMetadata ht hnow hnextFixed hby
      createdAt := hnow
      updatedAt := hnow
      createdBy := .str _
      approvedBy := .null
      approvedAt := ⟨none, rfl, by simp⟩ }, fun _ => hid⟩

/-- A policy is created from a template alike. -/
theorem agree_createFromTemplate {templateId : Value} {choice : TemplateChoice} (hchoice : choice.Kept)
    (htenant : tenantId.IsText) (hby : createdBy.Storable) :
    Agree (Both Policy.Kept) (createFromTemplate tenantId templateId choice createdBy)
      (createFromTemplate tenantId templateId choice createdBy) := by
  refine (agree_draftFromTemplate hchoice hby).bind fun p p' h => ?_
  obtain ⟨rfl, hp⟩ := h
  refine (agree_createPolicy hp htenant hby).bind fun stored stored' h => ?_
  obtain ⟨rfl, hstored⟩ := h
  exact (agree_publish rfl).bind fun _ _ _ => .pure ⟨rfl, hstored⟩

theorem isText_templatePolicyId {templateId id : Value} (h : templatePolicyId tenantId templateId = .ok id) : id.IsText := by
  obtain ⟨_, -, h⟩ := Reading.bind_eq_ok.mp h
  obtain ⟨_, -, h⟩ := Reading.bind_eq_ok.mp h
  exact ⟨_, (Reading.pure_eq_ok.mp h).symm⟩

/-- The policy that a tenant has from a template is found or created alike. -/
theorem agree_ensureTemplate {templateId : Value} (htenant : tenantId.IsText) (hby : createdBy.Storable) :
    Agree Gives (ensureTemplate tenantId templateId createdBy) (ensureTemplate tenantId templateId createdBy) := by
  unfold ensureTemplate
  refine (Agree.ofReading (F := Value.IsText) fun id => isText_templatePolicyId).bind fun id id' h => ?_
  obtain ⟨rfl, hid⟩ := h
  refine (agree_find twinned_policies.mirrored hid).bind fun o o' h => ?_
  obtain ⟨rfl, hkept⟩ := h
  cases o with
  | some p => exact .pure (Reads.gives ⟨rfl, (hkept p rfl).1⟩)
  | none =>
    refine (agree_createFromTemplate ?_ htenant hby).mono fun a b h => ⟨h.2, .inl h.1⟩
    exact { name := .null, scope := (fun _ h => nomatch h), edits := rfl, policyId := fun _ => hid }

end Creating

/-! ## Looking up -/

section Finding

variable {policyId tenantId : Value}

theorem agree_getPolicy (hid : policyId.IsText) : Agree Reads (getPolicy policyId) (getPolicy policyId) := by
  refine (agree_find twinned_policies.mirrored hid).bind fun o o' h => ?_
  obtain ⟨rfl, hkept⟩ := h
  cases o with
  | none => exact .throw
  | some p => exact .pure ⟨rfl, (hkept p rfl).1⟩

/-- The policies of a tenant come in the same order. -/
theorem agree_policiesOf (htenant : tenantId.IsText) : Agree ReadsAll (policiesOf tenantId) (policiesOf tenantId) := by
  refine (agree_ofTenant twinned_policies.mirrored htenant).bind fun ps ps' h => ?_
  obtain ⟨rfl, hkept⟩ := h
  rw [sortDescending_map (f := asRead) (fun _ => rfl)]
  exact .ofReading_map fun sorted hsorted => ⟨rfl, fun p hp => hkept p ((sortDescending_perm hsorted).mem_iff.mp hp)⟩

theorem agree_deletePolicy (hid : policyId.IsText) : Agree (fun _ _ => True) (deletePolicy policyId) (deletePolicy policyId) := by
  have hdrop : Agree Reads (dropPolicy policyId) (dropPolicy policyId) :=
    (agree_getPolicy hid).bind fun p p' h => (agree_remove twinned_policies hid).bind fun _ _ _ => .pure h
  refine hdrop.bind fun p p' h => ?_
  obtain ⟨rfl, -⟩ := h
  exact (agree_logValues _).bind fun _ _ _ => agree_publish rfl

end Finding

/-! ## Updating -/

section Updating

variable {p : Policy} {u : PolicyUpdate} {policyId tenantId actor : Value} {now : Timestamp}

theorem keptRuleId_asRead (current : List Rule) (r : Rule) :
    keptRuleId (current.map Rule.asRead) r = keptRuleId current r := by
  have hfind : (current.map Rule.asRead).reverse.find? (fun c => c.name.same r.name) =
      (current.reverse.find? fun c => c.name.same r.name).map Rule.asRead := by
    rw [← List.map_reverse, List.find?_map]
    rfl
  unfold keptRuleId
  rw [hfind]
  cases current.reverse.find? fun c => c.name.same r.name <;> rfl

/-- Whether rules change, and to what, does not depend on what documents leave out. -/
theorem changedRules_asRead (current : List Rule) (asked : Option (List (Loose Rule))) :
    changedRules (current.map Rule.asRead) asked = changedRules current asked := by
  cases asked with
  | none => rfl
  | some asked =>
    have hkept : keptRuleId (current.map Rule.asRead) = keptRuleId current := funext (keptRuleId_asRead current)
    unfold changedRules identified
    simp only [hkept, List.mapM_map, Function.comp_def, Rule.toDoc_asRead]
    rfl

theorem agree_keptRuleId {current : List Rule} (hcurrent : ∀ c ∈ current, c.Kept) {r : Rule} (hr : r.Kept) :
    Agree (Both Value.Storable) (keptRuleId current r) (keptRuleId current r) := by
  have hfresh : Agree (Both Value.Storable) (fresh .rule) (fresh .rule) :=
    (agree_fresh .rule).mono fun a b h => ⟨h.1, by obtain ⟨-, s, rfl⟩ := h; exact .str s⟩
  unfold keptRuleId
  split
  · exact .pure ⟨rfl, hr.id⟩
  · have hname : Agree (Both fun _ => True) (ofReading r.name.asScalar) (ofReading r.name.asScalar) :=
      .ofReading fun _ _ => trivial
    refine hname.discard.bind fun _ _ _ => ?_
    split
    · next c hc =>
      have hmem := List.mem_reverse.mp (List.mem_of_find?_eq_some hc)
      exact agree_orFresh .rule .str fun _ => (hcurrent c hmem).id
    · exact hfresh

/-- Rules of an update change alike, and rows can hold what they change to. -/
theorem agree_changedRules {current : List Rule} (hcurrent : ∀ c ∈ current, c.Kept) (hu : u.Kept) :
    Agree (Both fun changed => ∀ rs, changed = some rs → ∀ r ∈ rs, r.Kept) (changedRules current u.rules)
      (changedRules current u.rules) := by
  cases hasked : u.rules with
  | none => exact .pure ⟨rfl, fun _ h => nomatch h⟩
  | some asked =>
    obtain ⟨rs, rfl, hrs⟩ := hu.rules asked hasked
    have hnames : Agree (fun _ _ => True) (discard (current.mapM fun c => ofReading c.name.asScalar))
        (discard (current.mapM fun c => ofReading c.name.asScalar)) :=
      (Agree.mapM (S := Both fun _ => True) (List.forall₂_same.mpr fun _ _ => rfl) fun c c' h => by
        obtain rfl := h
        exact .ofReading fun _ _ => trivial).discard
    refine hnames.bind fun _ _ _ => ?_
    have hasked : List.Forall₂ (fun l l' : Loose Rule => l' = l ∧ ∃ r, l = .held r ∧ r.Kept) (rs.map .held) (rs.map .held) :=
      List.forall₂_same.mpr fun l hl => by
        obtain ⟨r, hr, rfl⟩ := List.mem_map.mp hl
        exact ⟨rfl, r, rfl, hrs r hr⟩
    refine (Agree.mapM_both (F := Rule.Kept) hasked fun l l' h => ?_).bind fun rules rules' h => ?_
    · obtain ⟨rfl, r, rfl, hr⟩ := h
      refine Agree.bind (R := Both (· = r)) (.pure ⟨rfl, rfl⟩) fun r r' h => ?_
      obtain ⟨rfl, rfl⟩ := h
      refine (agree_keptRuleId hcurrent hr).bind fun id id' h => .pure ?_
      obtain ⟨rfl, hid⟩ := h
      exact ⟨rfl, hr.withId hid⟩
    obtain ⟨rfl, hrules⟩ := h
    simp only [ofReading_mapM]
    refine (Agree.ofReading (F := fun _ => True) fun _ _ => trivial).bind fun after after' h => ?_
    obtain ⟨rfl, -⟩ := h
    refine (Agree.ofReading (F := fun _ => True) fun _ _ => trivial).bind fun before before' h => .pure ?_
    obtain ⟨rfl, -⟩ := h
    split
    · exact ⟨rfl, fun _ h => nomatch h⟩
    · exact ⟨rfl, fun rs h => Option.some.inj h ▸ hrules⟩

/-- An updated policy is the same, or it is a policy and what its document gives. -/
theorem agree_updated (hp : p.Kept) (hu : u.Kept) (hnow : now.Fixed) (hby : actor.Storable) :
    Agree Gives (updated p u now actor) (updated p.asRead u now actor) := by
  rw [updated_eq, updated_eq, show p.asRead.rules = p.rules.map Rule.asRead from rfl, changedRules_asRead]
  refine (agree_changedRules hp.rules hu).bind fun rules rules' h => ?_
  obtain ⟨rfl, hrules⟩ := h
  cases rules' with
  | some rs =>
    rw [assembled_some_asRead]
    exact (Agree.ofReading fun q => assembled_kept hp hu hrules hnow hby).mono fun a b h => ⟨h.2, .inl h.1⟩
  | none =>
    rw [assembled_none_asRead]
    exact .ofReading_map fun q hq => ⟨assembled_kept hp hu hrules hnow hby hq, .inr rfl⟩

theorem check_gives {q q' : Policy} (h : Gives q q') : Validation.check q' = Validation.check q := by
  rcases h.2 with rfl | rfl
  · rfl
  · exact Validation.check_asRead q

theorem agree_renewPolicy {update : Reading PolicyUpdate} (hid : policyId.IsText) (hupdate : ∀ u, update = .ok u → u.Kept)
    (hby : actor.Storable) : Agree Gives (renewPolicy policyId update actor) (renewPolicy policyId update actor) := by
  refine (agree_getPolicy hid).bind fun p p' h => ?_
  obtain ⟨rfl, hp⟩ := h
  refine (Agree.ofReading hupdate).bind fun u u' h => ?_
  obtain ⟨rfl, hu⟩ := h
  refine agree_clock.bind fun now now' h => ?_
  obtain ⟨rfl, hnow⟩ := h
  refine (agree_updated hp hu hnow hby).bind fun q q' h => ?_
  rw [check_gives h]
  refine (Agree.ofReading (F := fun _ => True) fun _ _ => trivial).bind fun _ _ _ => ?_
  exact (agree_keep twinned_policies h.1 h.same).bind fun _ _ _ => .pure h

/-- A new version of a policy is stored alike. -/
theorem agree_updateWith {update : Reading PolicyUpdate} (hid : policyId.IsText) (hupdate : ∀ u, update = .ok u → u.Kept)
    (hby : actor.Storable) : Agree Gives (updateWith policyId update actor) (updateWith policyId update actor) := by
  refine (agree_renewPolicy hid hupdate hby).bind fun q q' h => ?_
  have hversion : q'.version = q.version := by
    rcases h.2 with rfl | rfl <;> rfl
  rw [hversion]
  refine (agree_logValues _).bind fun _ _ _ => ?_
  have htold : (Event.policyUpdated q'.tenantId policyId q'.version actor).told =
      (Event.policyUpdated q.tenantId policyId q.version actor).told := by
    rcases h.2 with rfl | rfl <;> rfl
  rw [hversion] at htold
  exact (agree_publish htold).bind fun _ _ _ => .pure h

/-- The policy that a policy describes is found alike. -/
theorem agree_described (htenant : tenantId.IsText) (hname : p.id.MayName) :
    Agree (fun o o' => o' = o.map asRead ∧ ∀ q, o = some q → q.Kept) (described tenantId p) (described tenantId p) := by
  unfold described
  split
  · next hid => exact (agree_find twinned_policies.mirrored (hname hid)).mono fun o o' h => ⟨h.1, fun q hq => (h.2 q hq).1⟩
  · refine (agree_ofTenant twinned_policies.mirrored htenant).bind fun ps ps' h => .pure ?_
    obtain ⟨rfl, hkept⟩ := h
    exact ⟨List.find?_map .., fun q hq => hkept q (List.mem_of_find?_eq_some hq)⟩

/-- A policy is created, or the one that it describes is updated, alike. -/
theorem agree_applyPolicy {source : PolicySource} (hsource : source.Kept) (htenant : tenantId.IsText) (hby : actor.Storable) :
    Agree Gives (applyPolicy tenantId source actor) (applyPolicy tenantId source actor) := by
  unfold applyPolicy
  refine agree_clock.bind fun now now' h => ?_
  obtain ⟨rfl, hnow⟩ := h
  refine (Agree.ofReading fun p => hsource now' p hnow).bind fun p p' h => ?_
  obtain ⟨rfl, hp, hname⟩ := h
  refine (agree_described htenant hname).bind fun o o' h => ?_
  obtain ⟨rfl, hkept⟩ := h
  cases o with
  | none =>
    refine (agree_createPolicy (fun now q _ hq => ?_) htenant hby).mono fun a b h => ⟨h.2, .inl h.1⟩
    cases hq
    exact ⟨hp, hname⟩
  | some existing =>
    change Agree Gives (if existing.tenantId.same tenantId then _ else _) (if existing.tenantId.same tenantId then _ else _)
    split
    · refine agree_updateWith (hkept existing rfl).id (fun u hu => ?_) hby
      cases hu
      exact hp.update
    · exact .throw

end Updating

/-! ## Exceptions -/

section Exceptions

variable {p : Policy} {policyId exceptionId actor : Value}

/-- A policy is kept with other exceptions alike. -/
theorem agree_keepExceptions (hp : p.Kept) {es : List PolicyException} (hes : ∀ e ∈ es, e.Kept) {updatedAt : Timestamp}
    (hupdated : updatedAt.Fixed) :
    Agree (fun _ _ => True) (keep .policies { p with exceptions := .held (es.map .held), updatedAt })
      (keep .policies { p.asRead with exceptions := .held (es.map .held), updatedAt }) :=
  agree_keep twinned_policies { hp with exceptions := ⟨es, rfl, hes⟩, updatedAt := hupdated }
    (same_asRead (α := Policy) { p with exceptions := .held (es.map .held), updatedAt })

theorem agree_enterException {e : PolicyException} (hid : policyId.IsText) (he : e.Kept) :
    Agree (fun g g' => Reads g.1 g'.1 ∧ g'.2 = g.2 ∧ g.2.Kept) (enterException policyId e) (enterException policyId e) := by
  refine (agree_getPolicy hid).bind fun p p' h => ?_
  obtain ⟨rfl, hp⟩ := h
  have hrule : (p.asRead.rule? e.ruleId).isNone = (p.rule? e.ruleId).isNone := by
    rw [Policy.rule?, Policy.rule?, show p.asRead.rules = p.rules.map Rule.asRead from rfl, List.find?_map, Option.isNone_map]
    rfl
  change Agree _ (if (p.rule? e.ruleId).isNone then _ else _) (if (p.asRead.rule? e.ruleId).isNone then _ else _)
  rw [hrule]
  split
  · refine Agree.bind (.ofReading (F := fun _ => True) fun _ _ => trivial) fun rule rule' h => ?_
    obtain ⟨rfl, -⟩ := h
    refine Agree.bind (.ofReading (F := fun _ => True) fun _ _ => trivial) fun policy policy' h => ?_
    obtain ⟨rfl, -⟩ := h
    exact Agree.bind (R := fun _ _ => False) .throw fun _ _ h => h.elim
  have hstorable := he.storable
  simp only [PolicyException.toDoc, Value.storable_fields, List.forall_mem_cons] at hstorable
  refine (agree_orFresh (F := Value.Storable) .exception .str fun _ => hstorable.2.1).bind fun id id' h => ?_
  obtain ⟨rfl, hid'⟩ := h
  have hgranted := he.withId hid'
  obtain ⟨es, hheld, hes⟩ := hp.exceptions
  have hmore (q : Policy) (hq : q.exceptions = p.exceptions) :
      moreExceptions q { e with id := id' } = .ok (.held ((es ++ [{ e with id := id' }]).map .held)) := by
    rw [moreExceptions, hq, hheld, List.map_append]
    rfl
  dsimp only
  rw [hmore p rfl, hmore (asRead p) rfl]
  refine Agree.bind (R := Both (· = _)) (.pure ⟨rfl, rfl⟩) fun exceptions exceptions' h => ?_
  obtain ⟨rfl, rfl⟩ := h
  refine agree_clock.bind fun now now' h => ?_
  obtain ⟨rfl, hnow⟩ := h
  refine (agree_keepExceptions hp ?_ hnow).bind fun _ _ _ => .pure ⟨⟨rfl, hp⟩, rfl, hgranted⟩
  exact List.forall_mem_append.mpr ⟨hes, List.forall_mem_singleton.mpr hgranted⟩

/-- An exception is granted alike. -/
theorem agree_addException {e : PolicyException} (hid : policyId.IsText) (he : e.Kept) :
    Agree (Both PolicyException.Kept) (addException policyId e) (addException policyId e) := by
  refine (agree_enterException hid he).bind fun g g' h => ?_
  obtain ⟨p, granted⟩ := g
  obtain ⟨p', granted'⟩ := g'
  obtain ⟨⟨hp, -⟩, hsame, hgranted⟩ := h
  obtain rfl : p' = asRead p := hp
  obtain rfl : granted' = granted := hsame
  exact (agree_logValues _).bind fun _ _ _ => (agree_publish rfl).bind fun _ _ _ => .pure ⟨rfl, hgranted⟩

/-- An exception is revoked alike. -/
theorem agree_revokeException (hid : policyId.IsText) :
    Agree (Both PolicyException.Kept) (revokeException policyId exceptionId actor)
      (revokeException policyId exceptionId actor) := by
  unfold revokeException
  refine (agree_getPolicy hid).bind fun p p' h => ?_
  obtain ⟨rfl, hp⟩ := h
  obtain ⟨es, hheld, hes⟩ := hp.exceptions
  have hlist (q : Policy) (hq : q.exceptions = p.exceptions) : q.exceptionList = .ok (es.map .held) := by
    rw [Policy.exceptionList, hq, hheld]
  rw [hlist p rfl, hlist (asRead p) rfl]
  refine Agree.bind (R := Both (· = es.map .held)) (.pure ⟨rfl, rfl⟩) fun listed listed' h => ?_
  obtain ⟨rfl, rfl⟩ := h
  rw [exceptionWithId_held]
  refine Agree.bind (R := Both (· = es.find? fun l => l.id.same exceptionId)) (.pure ⟨rfl, rfl⟩) fun found found' h => ?_
  obtain ⟨rfl, hfound⟩ := h
  cases found' with
  | none => exact .throw
  | some e =>
    have he := hes e (List.mem_of_find?_eq_some hfound.symm)
    have hrevoked : ∀ l ∈ revokedIn exceptionId e es, l.Kept := by
      intro l hl
      obtain ⟨l', hl', rfl⟩ := List.mem_map.mp hl
      split
      · exact he.withStatus .revoked
      · exact hes l' hl'
    refine (Agree.ofReading (F := (· = (revokedIn exceptionId e es).map .held)) fun ls hls => ?_).bind fun ls ls' h => ?_
    · obtain ⟨es', heq, rfl⟩ := revokedEach_ok hls
      rw [Loose.map_held_inj heq]
    obtain ⟨rfl, rfl⟩ := h
    refine agree_clock.bind fun now now' h => ?_
    obtain ⟨rfl, hnow⟩ := h
    refine (agree_keepExceptions hp hrevoked hnow).bind fun _ _ _ => ?_
    exact (agree_publish rfl).bind fun _ _ _ => .pure ⟨rfl, he.withStatus .revoked⟩

theorem agree_expireIn (hp : p.Kept) (now : Timestamp) :
    Agree (Both fun _ => True) (expireIn now p) (expireIn now p.asRead) := by
  obtain ⟨es, hheld, hes⟩ := hp.exceptions
  have hlist (q : Policy) (hq : q.exceptions = p.exceptions) : q.exceptionList = .ok (es.map .held) := by
    rw [Policy.exceptionList, hq, hheld]
  have hswept : ∀ e ∈ es.map (PolicyException.swept now), e.Kept := by
    intro e he
    obtain ⟨e', he', rfl⟩ := List.mem_map.mp he
    unfold PolicyException.swept
    split
    · exact (hes e' he').withStatus .expired
    · exact hes e' he'
  unfold expireIn
  rw [hlist p rfl, hlist p.asRead rfl]
  refine Agree.bind (R := Both (· = es.map .held)) (.pure ⟨rfl, rfl⟩) fun listed listed' h => ?_
  obtain ⟨rfl, rfl⟩ := h
  refine (Agree.ofReading (F := fun rs => rs.map (·.2) = (es.map (PolicyException.swept now)).map .held)
    fun rs hrs => ?_).bind fun rs rs' h => ?_
  · obtain ⟨es', heq, -, rfl⟩ := expireEach_ok_iff.mp hrs
    rw [Loose.map_held_inj heq, List.map_map, List.map_map]
    rfl
  obtain ⟨rfl, hrs⟩ := h
  dsimp only
  rw [hrs]
  split
  · exact (agree_keepExceptions hp hswept hp.updatedAt).bind fun _ _ _ => .pure ⟨rfl, trivial⟩
  · exact .pure ⟨rfl, trivial⟩

/-- Lapsed exceptions expire alike, and as many. -/
theorem agree_expireExceptions (now : Option Timestamp) :
    Agree (Both fun _ => True) (expireExceptions now) (expireExceptions now) := by
  unfold expireExceptions
  refine agree_clock.bind fun time time' h => ?_
  obtain ⟨rfl, -⟩ := h
  refine (agree_all twinned_policies.mirrored).bind fun ps ps' h => ?_
  refine (Agree.mapM_both (F := fun _ => True) h.forall₂ fun p p' h => ?_).bind fun counts counts' h => .pure ?_
  · obtain ⟨rfl, hp⟩ := h
    exact agree_expireIn hp _
  · obtain ⟨rfl, -⟩ := h
    exact ⟨rfl, trivial⟩

end Exceptions

end Gate

end SupplyGate
