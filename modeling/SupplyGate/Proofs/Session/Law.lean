import SupplyGate.Proofs.Gate.Runs
import SupplyGate.Proofs.Session.Requests

/-!
# Invariants of a service

A `Conduct` is an invariant together with the reasons why requests keep it: which policies may be stored and
what is known of a stored one (`PolicyLaw`), and that the few steps by which requests change the state keep the
invariant. From these each request is shown to keep it (`Conduct.keeps_request`), so that an invariant of
the service is proved by looking at its stores and never at the requests. An invariant that is about
stores only, whatever is told by events, is a `Law`. Some invariants are only kept by the requests that start no run;
these are `PolicyWork` and `Handling`, which say nothing of results and of the events around a run.
-/

namespace SupplyGate

/-- A policy of the same name, with the same rules apart from their ids. -/
structure Policy.Alike (p q : Policy) : Prop where
  name : q.name = p.name
  rules : List.Forall₂ (fun r r' => ∃ id, r' = { r with id := id }) p.rules q.rules

theorem Policy.Alike.of_rules {p q : Policy} (hn : q.name = p.name) (hr : q.rules = p.rules) :
    p.Alike q where
  name := hn
  rules := by
    rw [hr]
    exact List.forall₂_same.mpr fun r _ => ⟨r.id, rfl⟩

/-- A violation after triage: what was found stays as it is. -/
def Violation.Triaged (v w : Violation) : Prop :=
  w = { v with
    status := w.status, resolution := w.resolution, resolvedBy := w.resolvedBy
    resolvedAt := w.resolvedAt, assignedTo := w.assignedTo }

/-- What the status of a violation says of its resolution: none while it is open or acknowledged, and a
time once it is resolved or a false positive. -/
structure Violation.Settled (v : Violation) : Prop where
  unresolved : v.status = .open ∨ v.status = .acknowledged →
    v.resolution = .null ∧ v.resolvedBy = .null ∧ v.resolvedAt = none
  resolved : v.status = .resolved ∨ v.status = .falsePositive → v.resolvedAt.isSome

/-- What triage to a status does to a violation beside: it leaves alone what was found, and settles the
violation as its new status demands. -/
structure Triage (target : ViolationStatus) (change : Violation → Violation) : Prop where
  triaged : ∀ (v : Violation) status, v.Triaged (change { v with status })
  status : ∀ v, (change v).status = v.status
  settled : ∀ v : Violation, v.Settled → v.status.mayMove target = true →
    (change { v with status := target }).Settled

open Gate

/-- An invariant that steps on policies keep: policies with `A` may be stored, and stored ones have `B`. -/
structure PolicyWork (I : GateState → Prop) (A B : Policy → Prop) : Prop extends Working I where
  /-- A policy without problems may be stored. -/
  checked : ∀ p, Validation.check p = .ok () → A p
  /-- A stored policy may be stored again with another header or other rule ids. -/
  alike : ∀ p q, A p → p.Alike q → A q
  stored : ∀ p, B p → A p
  found : ∀ s id p, I s → s.policies.get s.now id = .ok (some p) → B p
  listed : ∀ s tenant ps, I s → s.policies.ofTenant s.now tenant = .ok ps → ∀ p ∈ ps, B p
  every : ∀ s ps, I s → s.policies.all s.now = .ok ps → ∀ p ∈ ps, B p
  added : ∀ s p t, I s → A p → s.policies.add p = .ok t → I { s with policies := t }
  put : ∀ s p t, I s → A p → s.policies.put p = .ok t → I { s with policies := t }
  deleted : ∀ s id b t, I s → s.policies.delete id = .ok (b, t) → I { s with policies := t }

/-- The same of an invariant that runs keep, too. -/
structure PolicyLaw (I : GateState → Prop) (A B : Policy → Prop) : Prop extends Routine I, PolicyWork I A B

/-- An invariant that the requests keep that start no run, those that move violations apart. -/
structure Handling (I : GateState → Prop) (A B : Policy → Prop) : Prop extends PolicyWork I A B where
  detected : ∀ p, B p → ∀ r ∈ p.rules, ∀ d outcome c now, Keeps I (detect p r d outcome c now)
  strategy : ∀ s u t, I s → s.strategies.put u = .ok t → I { s with strategies := t }
  clocked : ∀ s now, I s → I { s with now }

/-- An invariant that requests keep, those that move violations apart. -/
structure Conduct (I : GateState → Prop) (A B : Policy → Prop) : Prop extends PolicyLaw I A B, Handling I A B

/-- Storing a violation with another status: it is on record, may move there, and is put back. -/
theorem outcome_storeMoved (violationId : Value) (target : ViolationStatus) (change : Violation → Violation)
    (s : GateState) : (∃ f, Fails (storeMoved violationId target change) s f s) ∨
    ∃ v t, s.violations.get s.now violationId = .ok (some v) ∧ v.status.mayMove target = true ∧
      s.violations.put (change { v with status := target }) = .ok t ∧
      Returns (storeMoved violationId target change) s (v, change { v with status := target })
        { s with violations := t } := by
  unfold Fails Returns storeMoved getViolation
  simp only [bind_assoc]
  rw [outcome_bind, outcome_find]
  rcases hv : (Shelf.violations.read s).get s.now violationId with f | _ | v
  · exact .inl ⟨f, rfl⟩
  · exact .inl ⟨_, rfl⟩
  · dsimp only
    rw [pure_bind]
    by_cases hm : (!v.status.mayMove target) = true
    · simp only [hm, if_true]
      exact .inl ⟨_, rfl⟩
    · simp only [hm, if_false, Bool.false_eq_true]
      rw [outcome_bind, outcome_keep]
      rcases hp : (Shelf.violations.read s).put (change { v with status := target }) with f | t
      · exact .inl ⟨f, rfl⟩
      · exact .inr ⟨v, t, hv, by simpa using hm, hp, rfl⟩

/-- A move leaves the state alone, or puts the violation back as the move leaves it, and then tells of it:
first the program's log, which may not be able to write who moved it, then by an event. -/
theorem keeps_move_of {I : GateState → Prop} {violationId : Value} {target : ViolationStatus} {actor : Value}
    {change : Violation → Violation}
    (h : ∀ s v t, I s → s.violations.get s.now violationId = .ok (some v) → v.status.mayMove target = true →
      s.violations.put (change { v with status := target }) = .ok t →
      I (outcome (do
        logValues [violationId, actor]
        publish (.statusChanged v.tenantId violationId v.status target actor)) { s with violations := t }).2) :
    Keeps I (move violationId target actor change) := by
  intro s hs
  refine ⟨?_, fun _ _ => trivial⟩
  unfold move
  rcases outcome_storeMoved violationId target change s with ⟨f, hf⟩ | ⟨v, t, hv, hm, hp, hr⟩
  · rw [outcome_bind_error hf]
    exact hs
  · have ht := h s v t hs hv hm hp
    rw [outcome_bind_ok hr]
    dsimp only
    rw [← bind_assoc, outcome_bind]
    -- Whether the move could be told or not, the state is the one that telling it leaves.
    generalize outcome (logValues _ >>= _) _ = told at ht ⊢
    obtain ⟨_ | _, s'⟩ := told
    · exact ht
    · exact ht

/-- The same of an invariant that does not depend on which events are published, and is kept by every
triage. -/
structure Law (I : GateState → Prop) (A B : Policy → Prop) : Prop extends RunLaw I, Conduct I A B where
  triaged : ∀ s id v w t, I s → s.violations.get s.now id = .ok (some v) → v.Triaged w →
    s.violations.put w = .ok t → I { s with violations := t }

/-- An invariant that is kept by every triage that someone does. -/
def KeepsMoves (I : GateState → Prop) (actor : Value) : Prop :=
  ∀ id target change, Triage target change → Keeps I (move id target actor change)

theorem Law.keepsMoves {I : GateState → Prop} {A B : Policy → Prop} (L : Law I A B) (actor : Value) :
    KeepsMoves I actor := fun _ _ _ hc =>
  keeps_move_of fun s _ t hs hv _ ht =>
    (keeps_ofReading.bind (fun _ => L.keeps_publish _) _ (L.triaged s _ _ _ t hs hv (hc.triaged _ _) ht)).1

/-- An invariant that requests keep whatever becomes of the policies: all it takes is that detecting findings of
policies with `B` keeps it. -/
structure Aside (I : GateState → Prop) (B : Policy → Prop) : Prop extends RunLaw I where
  policies : ∀ s t, I s → I { s with policies := t }
  strategies : ∀ s t, I s → I { s with strategies := t }
  clocked : ∀ s now, I s → I { s with now }
  triaged : ∀ s id v w t, I s → s.violations.get s.now id = .ok (some v) → v.Triaged w →
    s.violations.put w = .ok t → I { s with violations := t }
  detected : ∀ p, B p → ∀ r ∈ p.rules, ∀ d outcome c now, Keeps I (detect p r d outcome c now)

/-- Such an invariant is kept beside one of the policies. -/
theorem Law.aside {I J : GateState → Prop} {A B : Policy → Prop} (L : Law I A B) (h : Aside J B) :
    Law (fun s => I s ∧ J s) A B where
  recorded s r t hs ht := ⟨L.recorded s r t hs.1 ht, h.recorded s r t hs.2 ht⟩
  numbered s kind hs := ⟨L.numbered s kind hs.1, h.numbered s kind hs.2⟩
  published s e hs := ⟨L.published s e hs.1, h.published s e hs.2⟩
  called s call hs := ⟨L.called s call hs.1, h.called s call hs.2⟩
  checked := L.checked
  alike := L.alike
  stored := L.stored
  found s id p hs := L.found s id p hs.1
  listed s tenant ps hs := L.listed s tenant ps hs.1
  every s ps hs := L.every s ps hs.1
  added s p t hs hp ht := ⟨L.added s p t hs.1 hp ht, h.policies s t hs.2⟩
  put s p t hs hp ht := ⟨L.put s p t hs.1 hp ht, h.policies s t hs.2⟩
  deleted s id b t hs ht := ⟨L.deleted s id b t hs.1 ht, h.policies s t hs.2⟩
  triaged s id v w t hs hv hw ht := ⟨L.triaged s id v w t hs.1 hv hw ht, h.triaged s id v w t hs.2 hv hw ht⟩
  detected p hp r hr d outcome c now s hs :=
    ⟨⟨(L.detected p hp r hr d outcome c now s hs.1).1, (h.detected p hp r hr d outcome c now s hs.2).1⟩,
      fun _ _ => trivial⟩
  strategy s u t hs ht := ⟨L.strategy s u t hs.1 ht, h.strategies s t hs.2⟩
  clocked s now hs := ⟨L.clocked s now hs.1, h.clocked s now hs.2⟩

namespace PolicyWork

variable {I : GateState → Prop} {A B : Policy → Prop}

theorem keeps_getTemplate (templateId : Value) : Keeps I (getTemplate templateId) := by
  refine Keeps.bind ?_ fun _ => ?_
  · exact .map keeps_ofReading fun _ _ => trivial
  · split
    · exact keeps_pure
    · exact keeps_throw

theorem keeps_changedReading (current : List Rule) (rules : List Rule) :
    Keeps I (do
      let after ← rules.mapM fun r => ofReading r.toDoc
      let before ← current.mapM fun r => ofReading r.toDoc
      return if Value.sameItems after before then none else some rules : Gate (Option (List Rule))) :=
  Keeps.bind (Keeps.mapM fun _ _ => keeps_ofReading) fun _ =>
    Keeps.bind (Keeps.mapM fun _ _ => keeps_ofReading) fun _ => keeps_pure

variable (L : PolicyWork I A B)
include L

/-! ## Basic steps -/

theorem keeps_orFresh (kind : IdKind) (v : Value) : Keeps I (orFresh kind v) := by
  unfold orFresh
  split
  · exact keeps_pure
  · exact L.keeps_fresh kind

theorem yields_find (id : Value) : Yields I (find .policies id) fun o => ∀ p, o = some p → B p := by
  intro s hs
  rw [outcome_find]
  refine ⟨hs, fun o ho p hp => ?_⟩
  subst hp
  exact L.found s id p hs ho

theorem yields_ofTenant (tenant : Value) :
    Yields I (ofTenant .policies tenant) fun ps => ∀ p ∈ ps, B p := by
  intro s hs
  rw [outcome_ofTenant]
  exact ⟨hs, fun ps hps => L.listed s tenant ps hs hps⟩

theorem yields_all : Yields I (all .policies) fun ps => ∀ p ∈ ps, B p := by
  intro s hs
  rw [outcome_all]
  exact ⟨hs, fun ps hps => L.every s ps hs hps⟩

theorem keeps_add {p : Policy} (hp : A p) : Keeps I (add .policies p) := by
  intro s hs
  refine ⟨?_, fun _ _ => trivial⟩
  rw [outcome_add]
  split
  · next t ht => exact L.added s p t hs hp ht
  · exact hs

theorem keeps_keep {p : Policy} (hp : A p) : Keeps I (keep .policies p) := by
  intro s hs
  refine ⟨?_, fun _ _ => trivial⟩
  rw [outcome_keep]
  split
  · next t ht => exact L.put s p t hs hp ht
  · exact hs

theorem keeps_remove (id : Value) : Keeps I (remove .policies id) := by
  intro s hs
  refine ⟨?_, fun _ _ => trivial⟩
  rw [outcome_remove]
  split
  · next b t ht => exact L.deleted s id b t hs ht
  · exact hs

theorem yields_getPolicy (id : Value) : Yields I (getPolicy id) B := by
  refine (L.yields_find id).bind fun o ho => ?_
  cases o with
  | none => exact .throw
  | some p => exact .pure (ho p rfl)

/-! ## Policies -/

theorem yields_withRuleId (r : Rule) :
    Yields I (withRuleId r) fun r' => ∃ id, r' = { r with id := id } :=
  Yields.bind (L.keeps_orFresh _ _) fun id _ => .pure ⟨id, rfl⟩

theorem keeps_enterPolicy (tenantId : Value) (source : PolicySource) (createdBy : Value) :
    Keeps I (enterPolicy tenantId source createdBy) := by
  refine keeps_clock.bind fun now => keeps_ofReading.bind fun p => ?_
  refine Yields.bind (F := fun _ => A p) (.ofReading fun _ hc => L.checked p hc) fun _ hA => ?_
  refine Keeps.bind (L.keeps_orFresh _ _) fun id => ?_
  refine Yields.bind (.mapM fun r _ => L.yields_withRuleId r) fun rules hrules => ?_
  exact Keeps.bind (L.keeps_add (L.alike p _ hA ⟨rfl, hrules⟩)) fun _ => keeps_pure

/-- Telling of what was written keeps what events that tell of no step keep. -/
theorem keeps_tell {α : Type} {values : List Value} {e : Event} {a : α} (he : e.change = none) (hf : e.framedRun = none) :
    Keeps I (do logValues values; publish e; return a : Gate α) :=
  keeps_ofReading.bind fun _ => Keeps.bind (L.keeps_mention _ he hf) fun _ => keeps_pure

theorem keeps_createPolicy (tenantId : Value) (source : PolicySource) (createdBy : Value) :
    Keeps I (createPolicy tenantId source createdBy) :=
  Keeps.bind (L.keeps_enterPolicy _ _ _) fun _ => L.keeps_tell rfl rfl

theorem keeps_templateRule (edits : List (String × List RuleEdit)) (r : Rule) :
    Keeps I (templateRule edits r) :=
  Keeps.bind (L.keeps_fresh _) fun _ => keeps_ofReading.bind fun _ => keeps_pure

theorem keeps_draftFromTemplate (tenantId templateId : Value) (choice : TemplateChoice)
    (createdBy : Value) : Keeps I (draftFromTemplate tenantId templateId choice createdBy) := by
  refine Keeps.bind (keeps_getTemplate templateId) fun t => keeps_clock.bind fun now => ?_
  refine Keeps.bind (Keeps.mapM fun r _ => L.keeps_templateRule _ r) fun rules => ?_
  refine Keeps.bind (L.keeps_orFresh _ _) fun id => ?_
  split
  · exact keeps_pure.bind fun next => keeps_pure
  · exact keeps_throw.bind fun next => keeps_pure

theorem keeps_createFromTemplate (tenantId templateId : Value) (choice : TemplateChoice)
    (createdBy : Value) : Keeps I (createFromTemplate tenantId templateId choice createdBy) := by
  refine Keeps.bind (L.keeps_draftFromTemplate _ _ _ _) fun p => Keeps.bind (L.keeps_createPolicy _ _ _) fun stored => ?_
  exact Keeps.bind (L.keeps_mention _ rfl rfl) fun _ => keeps_pure

theorem keeps_ensureTemplate (tenantId templateId createdBy : Value) :
    Keeps I (ensureTemplate tenantId templateId createdBy) := by
  refine keeps_ofReading.bind fun id => (L.yields_find _).keeps.bind fun o => ?_
  cases o with
  | some p => exact keeps_pure
  | none => exact L.keeps_createFromTemplate _ _ _ _

theorem keeps_keptRuleId (current : List Rule) (r : Rule) : Keeps I (keptRuleId current r) := by
  unfold keptRuleId
  split
  · exact keeps_pure
  · refine Keeps.bind (.map keeps_ofReading fun _ _ => trivial) fun _ => ?_
    split
    · exact L.keeps_orFresh _ _
    · exact L.keeps_fresh _

theorem keeps_changedRules (current : List Rule) (rules : Option (List (Loose Rule))) :
    Keeps I (changedRules current rules) := by
  cases rules with
  | none => exact keeps_pure
  | some rules =>
    refine Keeps.bind (.map (Keeps.mapM fun _ _ => keeps_ofReading) fun _ _ => trivial) fun _ => ?_
    refine Keeps.bind (Keeps.mapM fun r _ => ?_) fun rules => keeps_changedReading current rules
    exact keeps_ofReading.bind fun r => Keeps.bind (L.keeps_keptRuleId _ _) fun _ => keeps_pure

theorem keeps_updated (p : Policy) (update : PolicyUpdate) (now : Timestamp) (updatedBy : Value) :
    Keeps I (updated p update now updatedBy) := by
  refine Keeps.bind (L.keeps_changedRules _ _) fun rules => ?_
  cases rules with
  | none => exact keeps_pure.bind fun _ => keeps_ofReading.bind fun _ => keeps_ofReading.bind fun _ => keeps_pure
  | some rules =>
    exact keeps_ofReading.bind fun _ => keeps_ofReading.bind fun _ => keeps_ofReading.bind fun _ => keeps_pure

theorem keeps_renewPolicy (policyId : Value) (update : Reading PolicyUpdate) (updatedBy : Value) :
    Keeps I (renewPolicy policyId update updatedBy) := by
  refine (L.yields_getPolicy policyId).keeps.bind fun current => keeps_ofReading.bind fun update => ?_
  refine keeps_clock.bind fun now => Keeps.bind (L.keeps_updated _ _ _ _) fun next => ?_
  refine Yields.bind (F := fun _ => A next) (.ofReading fun _ hc => L.checked next hc) fun _ hA => ?_
  exact Keeps.bind (L.keeps_keep hA) fun _ => keeps_pure

theorem keeps_updateWith (policyId : Value) (update : Reading PolicyUpdate) (updatedBy : Value) :
    Keeps I (updateWith policyId update updatedBy) :=
  Keeps.bind (L.keeps_renewPolicy _ _ _) fun _ => L.keeps_tell rfl rfl

theorem keeps_described (tenantId : Value) (p : Policy) : Keeps I (described tenantId p) := by
  unfold described
  split
  · exact (L.yields_find _).keeps
  · exact (L.yields_ofTenant _).keeps.bind fun _ => keeps_pure

theorem keeps_applyPolicy (tenantId : Value) (source : PolicySource) (appliedBy : Value) :
    Keeps I (applyPolicy tenantId source appliedBy) := by
  refine keeps_clock.bind fun now => keeps_ofReading.bind fun p => ?_
  refine Keeps.bind (L.keeps_described _ _) fun existing => ?_
  cases existing with
  | none => exact L.keeps_createPolicy _ _ _
  | some existing =>
    dsimp only
    split
    · exact L.keeps_updateWith _ _ _
    · exact keeps_throw

theorem keeps_dropPolicy (policyId : Value) : Keeps I (dropPolicy policyId) :=
  (L.yields_getPolicy policyId).keeps.bind fun _ => Keeps.bind (L.keeps_remove _) fun _ => keeps_pure

theorem keeps_deletePolicy (policyId : Value) : Keeps I (deletePolicy policyId) :=
  (L.keeps_dropPolicy policyId).bind fun _ => keeps_ofReading.bind fun _ => L.keeps_mention _ rfl rfl

/-! ## Exceptions -/

theorem keeps_enterException (policyId : Value) (e : PolicyException) :
    Keeps I (enterException policyId e) := by
  refine (L.yields_getPolicy policyId).bind fun p hp => ?_
  split
  · refine keeps_ofReading.bind fun _ => keeps_ofReading.bind fun _ => ?_
    exact Yields.bind (F := fun _ => False) .throw fun _ => False.elim
  · refine Keeps.bind (L.keeps_orFresh _ _) fun id => keeps_ofReading.bind fun exceptions => ?_
    refine keeps_clock.bind fun now => Keeps.bind (L.keeps_keep ?_) fun _ => keeps_pure
    exact L.alike p _ (L.stored p hp) (.of_rules rfl rfl)

theorem keeps_addException (policyId : Value) (e : PolicyException) :
    Keeps I (addException policyId e) :=
  Keeps.bind (L.keeps_enterException _ _) fun _ => L.keeps_tell rfl rfl

theorem keeps_revokeException (policyId exceptionId revokedBy : Value) :
    Keeps I (revokeException policyId exceptionId revokedBy) := by
  refine (L.yields_getPolicy policyId).bind fun p hp => keeps_ofReading.bind fun es => ?_
  refine keeps_ofReading.bind fun found => ?_
  cases found with
  | none => exact keeps_throw
  | some e =>
    refine keeps_ofReading.bind fun exceptions => keeps_clock.bind fun now => ?_
    refine Keeps.bind (L.keeps_keep ?_) fun _ => Keeps.bind (L.keeps_mention _ rfl rfl) fun _ => keeps_pure
    exact L.alike p _ (L.stored p hp) (.of_rules rfl rfl)

theorem keeps_expireIn (now : Timestamp) {p : Policy} (hp : B p) : Keeps I (expireIn now p) := by
  refine keeps_ofReading.bind fun es => keeps_ofReading.bind fun outcomes => ?_
  dsimp only
  split
  · refine Keeps.bind (L.keeps_keep ?_) fun _ => keeps_pure
    exact L.alike p _ (L.stored p hp) (.of_rules rfl rfl)
  · exact keeps_pure

theorem keeps_expireExceptions (now : Option Timestamp) : Keeps I (expireExceptions now) := by
  refine keeps_clock.bind fun clock => L.yields_all.bind fun ps hps => ?_
  exact Keeps.bind (Keeps.mapM fun p hp => L.keeps_expireIn _ (hps p hp)) fun _ => keeps_pure

end PolicyWork

/-- Steps on policies do not move the clock. -/
theorem PolicyLaw.clock (now : Timestamp) : PolicyLaw (fun s => s.now = now) (fun _ => True) fun _ => True where
  recorded _ _ _ hs _ := hs
  numbered _ _ hs := hs
  told _ _ _ hs := hs
  called _ _ hs := hs
  checked _ _ := trivial
  alike _ _ _ _ := trivial
  stored _ _ := trivial
  found _ _ _ _ _ := trivial
  listed _ _ _ _ _ _ _ := trivial
  every _ _ _ _ _ _ := trivial
  added _ _ _ hs _ _ := hs
  put _ _ _ hs _ _ := hs
  deleted _ _ _ _ hs _ := hs

namespace Handling

variable {I : GateState → Prop} {A B : Policy → Prop} (L : Handling I A B)
include L

theorem keeps_setStrategy (u : UpdateStrategy) : Keeps I (setStrategy u) := by
  intro s hs
  refine ⟨?_, fun _ _ => trivial⟩
  unfold setStrategy
  rw [outcome_keep]
  split
  · next t ht => exact L.strategy s u t hs ht
  · exact hs

/-! ## Triage -/

theorem keeps_resolve {resolvedBy : Value} (hmoves : KeepsMoves I resolvedBy) (violationId resolution : Value) :
    Keeps I (resolve violationId resolution resolvedBy) := by
  refine keeps_clock.bind fun now => Keeps.bind (hmoves _ _ _ ?_) fun v => ?_
  · exact ⟨fun _ _ => rfl, fun _ => rfl, fun _ _ _ => ⟨by simp, by simp⟩⟩
  · exact Keeps.bind (L.keeps_mention _ rfl rfl) fun _ => keeps_pure

omit L in
theorem keeps_acknowledge {acknowledgedBy : Value} (hmoves : KeepsMoves I acknowledgedBy)
    (violationId assignedTo : Value) : Keeps I (acknowledge violationId acknowledgedBy assignedTo) := by
  refine hmoves _ _ _ ⟨fun _ _ => rfl, fun _ => rfl, fun v hv hm => ⟨fun _ => hv.unresolved ?_, by simp⟩⟩
  cases hs : v.status <;> simp_all [ViolationStatus.mayMove]

omit L in
theorem keeps_suppress {suppressedBy : Value} (hmoves : KeepsMoves I suppressedBy) (violationId reason : Value) :
    Keeps I (suppress violationId reason suppressedBy) :=
  hmoves _ _ _ ⟨fun _ _ => rfl, fun _ => rfl, fun _ _ _ => ⟨by simp, by simp⟩⟩

omit L in
theorem keeps_markFalsePositive {markedBy : Value} (hmoves : KeepsMoves I markedBy) (violationId reason : Value) :
    Keeps I (markFalsePositive violationId reason markedBy) :=
  keeps_clock.bind fun _ => hmoves _ _ _ ⟨fun _ _ => rfl, fun _ => rfl, fun _ _ _ => ⟨by simp, by simp⟩⟩

/-! ## Requests that start no run -/

theorem keeps_evaluateDependency {d : Dependency} {policies : List Policy} {c : EvaluationContext}
    (hp : ∀ p ∈ policies, B p) : Keeps I (evaluateDependency d policies c) :=
  Gate.keeps_evaluateDependency fun p hmem r hr outcome now => L.detected p (hp p hmem) r hr d outcome c now

omit L in
theorem keeps_discard {α : Type} {x : Gate α} (h : Keeps I x) : Keeps I (discard x) :=
  .map h fun _ _ => trivial

/-- Requests that start no run keep the invariant, moves of violations as far as moves by the same do, and
evaluations of single dependencies as far as detecting findings of the given policies does. -/
theorem keeps_request (r : Request) (hm : ∀ actor, r.mover = some actor → KeepsMoves I actor)
    (hd : ∀ d ps c, r = .evaluateDependency d ps c → ∀ p ∈ ps, B p)
    (hr : ∀ others ds tenantId c cancel, r = .evaluatePolicies others ds tenantId c cancel → Keeps I r.run) :
    Keeps I r.run := by
  cases r with
  | setClock now => exact .modify fun s hs => L.clocked s now hs
  | createPolicy => exact keeps_discard (L.keeps_createPolicy _ _ _)
  | createFromTemplate => exact keeps_discard (L.keeps_createFromTemplate _ _ _ _)
  | ensureTemplate => exact keeps_discard (L.keeps_ensureTemplate _ _ _)
  | applyPolicy => exact keeps_discard (L.keeps_applyPolicy _ _ _)
  | updatePolicy => exact keeps_discard (L.keeps_updateWith _ _ _)
  | deletePolicy => exact L.keeps_deletePolicy _
  | addException => exact keeps_discard (L.keeps_addException _ _)
  | revokeException => exact keeps_discard (L.keeps_revokeException _ _ _)
  | expireExceptions => exact keeps_discard (L.keeps_expireExceptions _)
  | resolve => exact keeps_discard (L.keeps_resolve (hm _ rfl) _ _)
  | acknowledge => exact keeps_discard (keeps_acknowledge (hm _ rfl) _ _)
  | suppress => exact keeps_discard (keeps_suppress (hm _ rfl) _ _)
  | markFalsePositive => exact keeps_discard (keeps_markFalsePositive (hm _ rfl) _ _)
  | setStrategy => exact L.keeps_setStrategy _
  | evaluatePolicies => exact hr _ _ _ _ _ rfl
  | evaluateDependency d ps c => exact keeps_discard (L.keeps_evaluateDependency (hd d ps c rfl))

end Handling

namespace Conduct

variable {I : GateState → Prop} {A B : Policy → Prop} (L : Conduct I A B)
include L

theorem keeps_evaluateAll {others : Collaborators} {tenantId : Value} {policies : List Policy}
    {c : EvaluationContext} {cancel : Cancellation} {ds : List Dependency}
    (hp : ∀ p ∈ policies, B p) : Keeps I (evaluateAll others ds tenantId policies c cancel) :=
  (L.yields_evaluateAll (R := fun _ _ _ => True) fun p hmem _ r hr d _ outcome now =>
    L.detected p (hp p hmem) r hr d outcome c now).keeps

theorem yields_policiesOf (tenantId : Value) : Yields I (policiesOf tenantId) fun ps => ∀ p ∈ ps, B p :=
  (L.yields_ofTenant tenantId).bind fun _ hps => .ofReading fun _ hs p hp =>
    hps p ((sortDescending_perm hs).mem_iff.mp hp)

theorem keeps_evaluatePolicies {others : Collaborators} {tenantId : Value} {c : EvaluationContext}
    {cancel : Cancellation} {ds : List Dependency} :
    Keeps I (evaluatePolicies others ds tenantId c cancel) :=
  (L.yields_policiesOf tenantId).bind fun _ hps => L.keeps_evaluateAll hps

/-! ## Requests -/

/-- Requests keep the invariant, moves of violations as far as moves by the same do, and evaluations of single
dependencies as far as detecting findings of the given policies does. -/
theorem keeps_request (r : Request) (hm : ∀ actor, r.mover = some actor → KeepsMoves I actor)
    (hd : ∀ d ps c, r = .evaluateDependency d ps c → ∀ p ∈ ps, B p) : Keeps I r.run :=
  L.toHandling.keeps_request r hm hd fun _ _ _ _ _ hr => hr ▸ Handling.keeps_discard L.keeps_evaluatePolicies

end Conduct

namespace Law

variable {I : GateState → Prop} {A B : Policy → Prop} (L : Law I A B)
include L

/-- Requests keep the invariant, evaluations of single dependencies as far as detecting findings of the given
policies does. -/
theorem keeps_request (r : Request) (hd : ∀ d ps c, r = .evaluateDependency d ps c → ∀ p ∈ ps, B p) :
    Keeps I r.run :=
  L.toConduct.keeps_request r (fun actor _ => L.keepsMoves actor) hd

/-- An invariant that a service starts with holds of every state that its requests lead to. -/
theorem reachable {s : GateState} (start : ∀ now ids, I (.start .memory now ids))
    (h : Reachable Request.ofService s) : I s := by
  refine h.keeps start fun r hr => L.keeps_request r fun d ps c he => ?_
  subst he
  exact hr.elim

end Law
end SupplyGate
