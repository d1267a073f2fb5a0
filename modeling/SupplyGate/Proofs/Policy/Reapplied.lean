import SupplyGate.Proofs.Policy.Revision

/-!
# A policy in the place of its own result

When a policy is applied again, each of its rules without an id keeps that of the last rule on record with
its name, and the rules stay as they are if their documents then equal those on record (`Unchanged`).
Nothing else of the policy on record changes but the time of its update (`assembled_again`). When the
policy comes as a document, what the time of reading decides of it plays no part (`PolicySource.policy_later`).
-/

namespace SupplyGate

/-! ## Rules -/

/-- The id that a rule of an update keeps: its own, or that of the last current rule with its name. -/
def Rule.Keeps (current : List Rule) (r : Rule) (id : Value) : Prop :=
  if r.id.truthy then id = r.id
  else ∃ c, current.reverse.find? (fun c => c.name.same r.name) = some c ∧ id = c.id

/-- Two rules have equal documents. -/
def Rule.SameDoc (r r' : Rule) : Prop :=
  ∃ doc doc', r.toDoc = .ok doc ∧ r'.toDoc = .ok doc' ∧ doc.same doc' = true

/-- An update with some rules leaves the current ones as they are: their names can be looked up, and each
rule of the update has the document of the current one in its place, with the id that it keeps. -/
structure Unchanged (current rules : List Rule) : Prop where
  names : ∀ c ∈ current, ∃ k, c.name = .scalar k
  rules : List.Forall₂ (fun r c => ∃ id, r.Keeps current id ∧ Rule.SameDoc { r with id := id } c) rules current

/-- Rules with equal documents have equal names. -/
theorem Rule.SameDoc.name {r r' : Rule} (h : r.SameDoc r') : r.name.same r'.name = true := by
  obtain ⟨doc, doc', hr, hr', hs⟩ := h
  obtain ⟨severity, -, hr⟩ := Reading.bind_eq_ok.mp hr
  obtain ⟨metadata, -, hr⟩ := Reading.bind_eq_ok.mp hr
  obtain ⟨severity', -, hr'⟩ := Reading.bind_eq_ok.mp hr'
  obtain ⟨metadata', -, hr'⟩ := Reading.bind_eq_ok.mp hr'
  obtain rfl := Reading.pure_eq_ok.mp hr
  obtain rfl := Reading.pure_eq_ok.mp hr'
  simp only [Value.fields, Value.same, List.map_cons, List.map_nil, Value.sameEntries, Bool.and_eq_true] at hs
  simpa [findEntry, Scalar.same, Scalar.key] using hs.2.2.1

/-- Equality of scalars is symmetric. -/
theorem Scalar.same_comm {a b : Scalar} (h : a.same b = true) : b.same a = true := by
  unfold same at h ⊢
  obtain ⟨hkey, hnan⟩ := by simpa using h
  simp [← hkey, hnan]

/-- Scalars that equal one scalar equal each other. -/
theorem Scalar.same_of_same {a b c : Scalar} (hb : a.same b = true) (hc : a.same c = true) : b.same c = true := by
  unfold same at hb hc ⊢
  obtain ⟨hkey, hnan⟩ := by simpa using hb
  obtain ⟨hkey', -⟩ := by simpa using hc
  simp [← hkey, ← hkey', hnan]

/-- What equals a scalar is a scalar that equals it. -/
theorem Value.scalar_of_same {v : Value} {k : Scalar} (h : v.same (.scalar k) = true) :
    ∃ l, v = .scalar l ∧ l.same k = true := by
  cases v with
  | scalar l => exact ⟨l, rfl, by simpa [same] using h⟩
  | list items => simp [same] at h
  | map entries => simp [same] at h

/-- A rule with the document of one whose name can be looked up has a name that can be, and that finds it. -/
theorem Rule.SameDoc.scalar_name {r c : Rule} (h : r.SameDoc c) (hc : ∃ k, c.name = .scalar k) :
    ∃ l, r.name = .scalar l ∧ c.name.same r.name = true := by
  obtain ⟨k, hk⟩ := hc
  have hname := h.name
  rw [hk] at hname ⊢
  obtain ⟨l, hl, hsame⟩ := Value.scalar_of_same hname
  rw [hl, Value.same]
  exact ⟨l, rfl, Scalar.same_comm hsame⟩

theorem sameDoc_of_sameItems : ∀ {rules rules' : List Rule} {docs docs' : List Value},
    rules.mapM Rule.toDoc = .ok docs → rules'.mapM Rule.toDoc = .ok docs' → Value.sameItems docs docs' = true →
      List.Forall₂ Rule.SameDoc rules rules'
  | [], [], _, _, _, _, _ => .nil
  | [], r' :: rules', docs, docs', h, h', hs => by
    obtain rfl := Reading.pure_eq_ok.mp h
    obtain ⟨doc', rest', -, -, rfl⟩ := Reading.mapM_cons_eq_ok.mp h'
    simp [Value.sameItems] at hs
  | r :: rules, [], docs, docs', h, h', hs => by
    obtain ⟨doc, rest, -, -, rfl⟩ := Reading.mapM_cons_eq_ok.mp h
    obtain rfl := Reading.pure_eq_ok.mp h'
    simp [Value.sameItems] at hs
  | r :: rules, r' :: rules', docs, docs', h, h', hs => by
    obtain ⟨doc, rest, hr, hrest, rfl⟩ := Reading.mapM_cons_eq_ok.mp h
    obtain ⟨doc', rest', hr', hrest', rfl⟩ := Reading.mapM_cons_eq_ok.mp h'
    obtain ⟨hdoc, hdocs⟩ := Bool.and_eq_true_iff.mp hs
    exact .cons ⟨doc, doc', hr, hr', hdoc⟩ (sameDoc_of_sameItems hrest hrest' hdocs)

/-- Two lists of rules have equal documents just when their rules do, one by one. -/
theorem sameItems_docs_iff {rules rules' : List Rule} :
    (∃ docs docs', rules.mapM Rule.toDoc = .ok docs ∧ rules'.mapM Rule.toDoc = .ok docs' ∧
      Value.sameItems docs docs' = true) ↔ List.Forall₂ Rule.SameDoc rules rules' := by
  constructor
  · rintro ⟨docs, docs', h, h', hs⟩
    exact sameDoc_of_sameItems h h' hs
  · intro h
    induction h with
    | nil => exact ⟨[], [], rfl, rfl, rfl⟩
    | cons hr _ ih =>
      obtain ⟨doc, doc', hdoc, hdoc', hs⟩ := hr
      obtain ⟨docs, docs', hdocs, hdocs', hss⟩ := ih
      refine ⟨doc :: docs, doc' :: docs', ?_, ?_, Bool.and_eq_true_iff.mpr ⟨hs, hss⟩⟩
      · exact Reading.mapM_cons_eq_ok.mpr ⟨doc, docs, hdoc, hdocs, rfl⟩
      · exact Reading.mapM_cons_eq_ok.mpr ⟨doc', docs', hdoc', hdocs', rfl⟩

/-- Names tell rules apart: each can be looked up, and no two of them are equal. -/
structure Apart (names : List Value) : Prop where
  keys : ∀ v ∈ names, ∃ k, v = .scalar k
  distinct : names.Pairwise fun v w => w.same v = false

/-- Among rules that names tell apart, each is the last one with its name. -/
theorem Apart.last {rules : List Rule} (h : Apart (rules.map (·.name))) {c : Rule} (hc : c ∈ rules)
    (hsame : c.name.same c.name = true) : rules.reverse.find? (fun d => d.name.same c.name) = some c := by
  obtain ⟨before, after, rfl⟩ := List.append_of_mem hc
  have hdistinct := (List.pairwise_append.mp (List.pairwise_map.mp h.distinct)).2.1
  have hlater : ∀ d ∈ after, d.name.same c.name = false := (List.pairwise_cons.mp hdistinct).1
  refine List.find?_eq_some_iff_append.mpr ⟨hsame, after.reverse, before.reverse, by simp, fun d hd => ?_⟩
  simpa using hlater d (List.mem_reverse.mp hd)

/-- An id that a rule was given without giving up its own. -/
def Rule.Given (r : Rule) (id : Value) : Prop := r.id.truthy = true → id = r.id

/-- The id that a rule of an update is found: one that it keeps, or any if it has none and no current rule has
its name. -/
structure Rule.Identified (current : List Rule) (r : Rule) (id : Value) : Prop where
  given : r.Given id
  kept : r.Keeps current id ∨ ∀ c ∈ current, c.name.same r.name = false

/-- An update whose rules have the documents of the current ones once they are identified leaves those as
they are. -/
theorem unchanged_of_identified {current rules rs : List Rule} (hnames : ∀ c ∈ current, ∃ k, c.name = .scalar k)
    (hrs : RulesUnder (Rule.Identified current) rules rs) (hdocs : List.Forall₂ Rule.SameDoc rs current) :
    Unchanged current rules where
  names := hnames
  rules := by
    refine (forall₂_comp hrs (forall₂_mem_right hdocs)).imp fun r c h => ?_
    obtain ⟨_, ⟨id, hid, rfl⟩, hc, hdoc⟩ := h
    refine ⟨id, hid.kept.resolve_right fun hno => ?_, hdoc⟩
    -- the rule has the name of the current one in its place
    obtain ⟨l, -, hsame⟩ := hdoc.scalar_name (hnames c hc)
    rw [hno c hc] at hsame
    cases hsame

/-- Rules that names tell apart, and that were given their ids, stay as they are under an update by the same
rules if their documents equal themselves. -/
theorem Apart.unchanged {asked rules : List Rule} (h : Apart (asked.map (·.name)))
    (hgiven : RulesUnder Rule.Given asked rules) (hdocs : ∀ c ∈ rules, c.SameDoc c) : Unchanged rules asked := by
  rw [← hgiven.names] at h
  refine ⟨fun c hc => h.keys _ (List.mem_map_of_mem hc), (forall₂_mem_right hgiven).imp fun r c hrc => ?_⟩
  obtain ⟨hc, id, hid, hrule⟩ := hrc
  refine ⟨id, ?_, hrule ▸ hdocs c hc⟩
  unfold Rule.Keeps
  split
  · next ht => exact hid ht
  · have hlast := h.last hc (hdocs c hc).name
    rw [hrule] at hlast
    exact ⟨_, hlast, rfl⟩

/-! ## Policies -/

/-- A policy has the fields that an update by another one sets, apart from the rules. -/
structure Policy.Describes (p q : Policy) : Prop where
  name : q.name = p.name
  description : q.description = p.description
  enabled : q.enabled = p.enabled
  priority : q.priority = p.priority
  scope : q.scope = p.scope
  enforcement : q.enforcement = p.enforcement

namespace Gate

variable {p q r : Policy} {rules : Option (List Rule)} {now : Timestamp} {updatedBy : Value}

/-- An update by a policy sets its fields. -/
theorem assembled_describes (h : assembled r (.ofPolicy p) rules now updatedBy = .ok q) : p.Describes q := by
  obtain ⟨raised, -, h⟩ := Reading.bind_eq_ok.mp h
  cases h
  exact ⟨rfl, rfl, rfl, rfl, rfl, rfl⟩

/-- Where the fields are those of the policy and no rules change, only the time of the update does. -/
theorem assembled_again (h : p.Describes q) :
    assembled q (.ofPolicy p) none now updatedBy = .ok { q with updatedAt := now } := by
  obtain ⟨hname, hdescription, henabled, hpriority, hscope, henforcement⟩ := h
  change Except.ok { q with
    name := p.name, description := p.description, enabled := p.enabled, priority := p.priority
    scope := p.scope, enforcement := p.enforcement, updatedAt := now } = _
  rw [← hname, ← hdescription, ← henabled, ← hpriority, ← hscope, ← henforcement]

/-- Where rules change, the change log goes on. -/
theorem assembled_logged {rules : List Rule} (h : assembled r (.ofPolicy p) (some rules) now updatedBy = .ok q) :
    ∃ change, q.metadata.changeLog = r.metadata.changeLog ++ [change] := by
  obtain ⟨raised, hraised, h⟩ := Reading.bind_eq_ok.mp h
  obtain ⟨version, -, hraised⟩ := Reading.bind_eq_ok.mp hraised
  obtain rfl := Reading.pure_eq_ok.mp hraised
  cases h
  exact ⟨_, rfl⟩

end Gate

/-- Which name and rules an update by a policy gives is seen from the update. -/
theorem PolicyUpdate.ofPolicy_inj {p q : Policy} (h : PolicyUpdate.ofPolicy p = .ofPolicy q) :
    p.name = q.name ∧ p.rules = q.rules := by
  obtain ⟨hedits, hrules, -⟩ := PolicyUpdate.mk.inj h
  have hname := (List.cons.inj hedits).1
  exact ⟨PolicyEdit.name.inj hname, Loose.map_held_inj (Option.some.inj hrules)⟩

/-! ## Reading a policy at another time -/

section Later

variable {α β γ : Type}

theorem Reading.map_bind (x : Reading α) (f : α → Reading β) (g : β → γ) :
    (x >>= f).map g = x >>= fun a => (f a).map g := by
  cases x <;> rfl

theorem Reading.map_pure (a : α) (g : α → β) : (pure a : Reading α).map g = .ok (g a) := rfl

/-- Two readings go through for the same inputs, or fail with the same fault. -/
def SameFate (x y : Reading α) : Prop := x.map (fun _ => ()) = y.map fun _ => ()

theorem SameFate.bind_const {x y : Reading α} (h : SameFate x y) (r : Reading β) :
    (x >>= fun _ => r) = y >>= fun _ => r := by
  cases x <;> cases y <;> simp_all [SameFate, Except.map, bind, Except.bind]

theorem SameFate.mapM {f g : Value → Reading α} (h : ∀ v, SameFate (f v) (g v)) :
    ∀ vs : List Value, SameFate (vs.mapM f) (vs.mapM g)
  | [] => rfl
  | v :: vs => by
    have ih := SameFate.mapM h vs
    have hv := h v
    rw [List.mapM_cons, List.mapM_cons]
    unfold SameFate at ih hv ⊢
    cases hf : f v <;> cases hg : g v <;> rw [hf, hg] at hv <;> try cases hv
    · rfl
    · cases hfs : vs.mapM f <;> cases hgs : vs.mapM g <;> rw [hfs, hgs] at ih <;> cases ih <;> rfl

/-- Whether an exception can be read does not depend on the time of reading. -/
theorem PolicyException.ofDoc_later (now later : Timestamp) (doc : Value) :
    SameFate (PolicyException.ofDoc now doc) (PolicyException.ofDoc later doc) := by
  unfold SameFate PolicyException.ofDoc
  simp only [Reading.map_bind]
  refine bind_congr fun schedule => bind_congr fun id => bind_congr fun ruleId => bind_congr fun dependency => ?_
  refine bind_congr fun reason => bind_congr fun justification => bind_congr fun approvedBy => ?_
  refine bind_congr fun approvedAt => bind_congr fun approvedAt' => bind_congr fun expiresAt => ?_
  refine bind_congr fun expiresAt' => bind_congr fun conditions => bind_congr fun conditions' => ?_
  split <;> simp only [Reading.map_bind, Reading.map_pure]

theorem PolicyException.ofDocs_later (now later : Timestamp) (v : Value) :
    SameFate (v.asRecordsOrEmpty (PolicyException.ofDoc now)) (v.asRecordsOrEmpty (PolicyException.ofDoc later)) := by
  unfold SameFate Value.asRecordsOrEmpty Value.asRecords
  simp only [Reading.map_bind]
  exact bind_congr fun items => SameFate.mapM (PolicyException.ofDoc_later now later) items

/-- A document gives a policy with the same id and the same update, whenever it is read. -/
theorem Policy.ofDoc_later (now later : Timestamp) (doc : Value) :
    (Policy.ofDoc now doc).map (fun p => (p.id, PolicyUpdate.ofPolicy p)) =
      (Policy.ofDoc later doc).map fun p => (p.id, PolicyUpdate.ofPolicy p) := by
  unfold Policy.ofDoc
  simp only [Reading.map_bind, Reading.map_pure, PolicyUpdate.ofPolicy]
  refine bind_congr fun id => bind_congr fun tenantId => bind_congr fun name => bind_congr fun description => ?_
  refine bind_congr fun version => bind_congr fun version' => bind_congr fun enabled => bind_congr fun priority => bind_congr fun scope => ?_
  refine bind_congr fun scope' => bind_congr fun rules => bind_congr fun rules' => bind_congr fun enforcement => ?_
  refine bind_congr fun enforcement' => bind_congr fun exceptions => ?_
  exact (PolicyException.ofDocs_later now later exceptions).bind_const _

/-- A source that gives a policy at one time gives one with the same id and update at any other. -/
theorem PolicySource.policy_later {source : PolicySource} {now : Timestamp} {p : Policy}
    (h : source.policy now = .ok p) (later : Timestamp) :
    ∃ p', source.policy later = .ok p' ∧ p'.id = p.id ∧ PolicyUpdate.ofPolicy p' = .ofPolicy p := by
  cases source with
  | record q => exact ⟨p, h, rfl, rfl⟩
  | document doc =>
    cases doc with
    | scalar k => cases h
    | list items => cases h
    | map entries =>
      have hlater := Policy.ofDoc_later now later (.map entries)
      rw [show Policy.ofDoc now (.map entries) = .ok p from h] at hlater
      obtain ⟨p', hp', hsame⟩ : ∃ p', Policy.ofDoc later (.map entries) = .ok p' ∧
          (p'.id, PolicyUpdate.ofPolicy p') = (p.id, .ofPolicy p) := by
        cases hp' : Policy.ofDoc later (.map entries) with
        | error f =>
          rw [hp'] at hlater
          cases hlater
        | ok p' =>
          rw [hp'] at hlater
          exact ⟨p', rfl, (Except.ok.inj hlater).symm⟩
      obtain ⟨hid, hupdate⟩ := Prod.mk.inj hsame
      exact ⟨p', hp', hid, hupdate⟩

end Later

end SupplyGate
