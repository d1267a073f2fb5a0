import SupplyGate.Proofs.Gate.Runs
import SupplyGate.Proofs.Ids
import SupplyGate.Proofs.Store.Filed

/-!
# When an evaluation goes through

An evaluation reads fields that may hold any value, and fails at the first that it cannot read. Where
the violations on record have ids that were given out, nothing else can fail: a fresh id is free, and
storing a finding goes through. So the evaluation of a dependency returns just when all that it reads
on its way can be read (`succeeds_evaluateDependency_iff`).
-/

namespace SupplyGate.Gate

/-! ## Violations with ids that were given out -/

/-- The record stands under an id that was given out before the one with number `next`. -/
def Given (next : Nat) (k : Key) (v : Violation) : Prop :=
  ∃ n < next, v.id = .str (Ids.textOf .violation n) ∧ k = .str (Ids.textOf .violation n)

theorem Given.mono {m n : Nat} {k : Key} {v : Violation} (h : Given m k v) (hmn : m ≤ n) :
    Given n k v := by
  obtain ⟨i, hi, hv⟩ := h
  exact ⟨i, by omega, hv⟩

/-- Events are not logged, and the violations are in memory, under ids that were given out. -/
structure Numbered (s : GateState) : Prop where
  unlogged : s.logsEvents = false
  given : ∃ m, s.violations = .memory m ∧ m.Every (Given (s.ids.count .violation + 1))

theorem Numbered.start (now : Timestamp) (ids : Ids) : Numbered (.start .memory now ids) :=
  ⟨rfl, .empty, rfl, MemoryStore.Every.empty⟩

theorem Numbered.bump {s : GateState} (h : Numbered s) (kind : IdKind) :
    Numbered { s with ids := s.ids.bump kind } := by
  obtain ⟨hl, m, hm, he⟩ := h
  refine ⟨hl, m, hm, fun e hmem => (he e hmem).mono ?_⟩
  have := Ids.count_bump s.ids kind .violation
  change _ ≤ (s.ids.bump kind).count .violation + 1
  omega

theorem numbered_runLaw : RunLaw Numbered where
  recorded _ _ _ hs _ := ⟨hs.unlogged, hs.given⟩
  numbered _ kind hs := hs.bump kind
  published _ _ hs := ⟨hs.unlogged, hs.given⟩
  called _ _ hs := ⟨hs.unlogged, hs.given⟩

/-! ## Findings -/

section Findings

variable {s : GateState} {p : Policy} {r : Rule} {d : Dependency} {o : ConditionOutcome}
  {c : EvaluationContext} {now : Timestamp}

theorem topicOf_ok {type : Value} :
    (∃ topic, Finding.topicOf type = .ok topic) ↔ ∃ k, type = .scalar k := by
  rw [← Value.asScalar_ok_iff]
  constructor
  · rintro ⟨topic, h⟩
    obtain ⟨k, hk, -⟩ := Reading.bind_eq_ok.mp h
    exact ⟨k, hk⟩
  · rintro ⟨k, hk⟩
    unfold Finding.topicOf
    rw [hk]
    simp only [bind, Except.bind]
    split <;> exact ⟨_, rfl⟩

theorem Given.key {next : Nat} {k : Key} {v : Violation} (h : Given next k v) :
    MemoryStore.keyOf v = .ok k := by
  obtain ⟨n, -, hv, rfl⟩ := h
  change v.id.asKey = _
  rw [hv]
  rfl

theorem Given.seenAgain {next : Nat} {k : Key} {v : Violation} (h : Given next k v) (now : Timestamp)
    (found : Violation) : Given next k (Finding.seenAgain now found v) := by
  obtain ⟨n, hn, hv, hk⟩ := h
  exact ⟨n, hn, (Finding.id_seenAgain now found v).trans hv, hk⟩

/-- An id is free while all ids on record were given out before it. -/
theorem lookup_given {m : MemoryStore Violation} {n : Nat} (hm : m.Every (Given n)) :
    m.lookup (.str (Ids.textOf .violation n)) = none := by
  cases hl : m.lookup (.str (Ids.textOf .violation n)) with
  | none => rfl
  | some w =>
    obtain ⟨i, hi, -, hk⟩ := hm.lookup hl
    have := Ids.textOf_inj (Key.str.inj hk)
    omega

/-- Storing a violation under a new id goes through: either one on record is refreshed, or the id is
free since all others were given out before. -/
theorem getOrAdd_given {m : MemoryStore Violation} {n : Nat} {v : Violation} (now : Timestamp)
    (hm : m.Every (Given n)) (hv : v.id = .str (Ids.textOf .violation n)) :
    ∃ found t, m.getOrAdd v.key v (Finding.seenAgain now v) = .ok (found, t) ∧ t.Every (Given (n + 1)) := by
  have hgiven : Given (n + 1) (.str (Ids.textOf .violation n)) v := ⟨n, by omega, hv, rfl⟩
  have hm' : m.Every (Given (n + 1)) := fun e he => (hm e he).mono (by omega)
  cases hb : m.byIndex v.key with
  | some e =>
    obtain ⟨k, old⟩ := e
    have hold := (hm'.lookup (MemoryStore.byIndex_eq_some.mp hb).2.2).seenAgain now v
    exact ⟨_, _, MemoryStore.getOrAdd_of_some hb hold.key, hm'.store hold⟩
  | none =>
    exact ⟨_, _, MemoryStore.getOrAdd_of_none hb hgiven.key (lookup_given hm), hm'.store hgiven⟩

/-- Recording a violation under a new id goes through if its text can be written. -/
theorem record_numbered {v : Violation} {m : MemoryStore Violation} (hkey : ∀ part ∈ v.keyParts, part.isWritable = true)
    (hl : s.logsEvents = false) (hm : s.violations = .memory m) (hgiven : m.Every (Given (s.ids.count .violation)))
    (hv : v.id = .str (Ids.textOf .violation (s.ids.count .violation))) :
    ∃ w s', Returns (record now v) s w s' ∧ Numbered s' := by
  obtain ⟨found, t, ht, hgiven'⟩ := getOrAdd_given now hgiven hv
  have hfind : Returns (findOrAdd .violations v.key v (Finding.seenAgain now v)) s found
      { s with violations := .memory t } := by
    refine (returns_findOrAdd _).mpr ⟨.memory t, ?_, rfl⟩
    rw [show Shelf.violations.read s = .memory m from hm]
    exact Store.getOrAdd_memory.mpr ⟨t, ht, rfl⟩
  have hnumbered : ∀ es, Numbered { s with violations := .memory t, events := es } :=
    fun es => ⟨hl, t, rfl, hgiven'⟩
  have hpublish : ∀ e, ∃ s', Returns (publish e) { s with violations := .memory t } () s' ∧ Numbered s' :=
    fun e => ⟨_, outcome_publish_unlogged e hl, hnumbered _⟩
  have hparts : Returns (ofReading (Value.checkAll v.keyParts)) s () s :=
    returns_ofReading.mpr ⟨Value.checkAll_eq_ok.mpr hkey, rfl⟩
  unfold record
  cases hp : found.previous with
  | none =>
    refine ⟨found.record, _, returns_bind.mpr ⟨(), s, hparts, returns_bind.mpr ⟨found, _, hfind, ?_⟩⟩, hnumbered s.events⟩
    rw [hp]
    exact rfl
  | some old =>
    by_cases hr : old.status = .resolved
    · obtain ⟨s', hs', hn⟩ := hpublish (.statusChanged found.record.tenantId found.record.id .resolved .open "system")
      refine ⟨found.record, s', returns_bind.mpr ⟨(), s, hparts, returns_bind.mpr ⟨found, _, hfind, ?_⟩⟩, hn⟩
      simp only [hp, hr, if_true]
      exact returns_bind.mpr ⟨(), s', hs', rfl⟩
    · refine ⟨found.record, _, returns_bind.mpr ⟨(), s, hparts, returns_bind.mpr ⟨found, _, hfind, ?_⟩⟩, hnumbered s.events⟩
      simp only [hp, hr, if_false]
      exact rfl

theorem detect_eq (p : Policy) (r : Rule) (d : Dependency) (o : ConditionOutcome) (c : EvaluationContext)
    (now : Timestamp) :
    detect p r d o c now = (do
      let topic ← ofReading (Finding.topicOf r.type)
      ofReading r.name.checkWritable
      let id ← fresh .violation
      let metadata ← ofReading (r.metadata.part "tags")
      record now (Finding.violationOf p r d o c now topic id metadata)) := by
  unfold detect foundViolation
  simp only [bind_assoc, pure_bind]
  rfl

theorem returns_fresh (kind : IdKind) (s : GateState) :
    Returns (fresh kind) s (.str (Ids.textOf kind ((s.ids.bump kind).count kind)))
      { s with ids := s.ids.bump kind } :=
  rfl

theorem count_bump_self (ids : Ids) (kind : IdKind) : (ids.bump kind).count kind = ids.count kind + 1 := by
  rw [Ids.count_bump, if_pos rfl]

/-- What a finding of a rule is told by: its type has a topic, its metadata can be read, and its name and the text
of the finding can be written. -/
structure Nameable (p : Policy) (r : Rule) (d : Dependency) : Prop where
  type : ∃ k, r.type = .scalar k
  name : r.name.isWritable = true
  metadata : ∃ m, r.metadata = .held m
  text : ∀ part ∈ Finding.parts p r d, part.isWritable = true

/-- A finding of a rule is detected if it can be told. -/
theorem detect_numbered (hs : Numbered s) (h : Nameable p r d) :
    ∃ w s', Returns (detect p r d o c now) s w s' ∧ Numbered s' := by
  obtain ⟨topic, ht⟩ := topicOf_ok.mpr h.type
  obtain ⟨m, hm⟩ := h.metadata
  obtain ⟨hl, v, hv, hgiven⟩ := hs
  have hgiven' : v.Every (Given ((s.ids.bump .violation).count .violation)) := by
    rw [count_bump_self]
    exact hgiven
  obtain ⟨w, s', hw, hn⟩ : ∃ w s', Returns (record now (Finding.violationOf p r d o c now topic _ m))
      { s with ids := s.ids.bump .violation } w s' ∧ Numbered s' :=
    record_numbered h.text hl hv hgiven' rfl
  refine ⟨w, s', ?_, hn⟩
  rw [detect_eq]
  refine returns_bind.mpr ⟨topic, s, returns_ofReading.mpr ⟨ht, rfl⟩, ?_⟩
  refine returns_bind.mpr ⟨(), s, returns_ofReading.mpr ⟨Value.checkWritable_eq_ok.mpr h.name, rfl⟩, ?_⟩
  refine returns_bind.mpr ⟨_, _, returns_fresh .violation s, ?_⟩
  exact returns_bind.mpr ⟨m, _, returns_ofReading.mpr ⟨Loose.part_eq_ok.mpr hm, rfl⟩, hw⟩

/-- A finding is detected just when it can be told. -/
theorem succeeds_detect_iff (hs : Numbered s) : Succeeds (detect p r d o c now) s ↔ Nameable p r d := by
  constructor
  · rintro ⟨w, s', h⟩
    rw [detect_eq] at h
    obtain ⟨topic, _, ht, h₁⟩ := returns_bind.mp h
    obtain ⟨_, _, hn, h₂⟩ := returns_bind.mp h₁
    obtain ⟨id, _, -, h₃⟩ := returns_bind.mp h₂
    obtain ⟨m, _, hm, h₄⟩ := returns_bind.mp h₃
    obtain ⟨_, _, hparts, -⟩ := returns_bind.mp h₄
    exact ⟨topicOf_ok.mp ⟨topic, (returns_ofReading.mp ht).1⟩,
      Value.checkWritable_eq_ok.mp (returns_ofReading.mp hn).1, ⟨m, Loose.part_eq_ok.mp (returns_ofReading.mp hm).1⟩,
      Value.checkAll_eq_ok.mp (returns_ofReading.mp hparts).1⟩
  · intro h
    obtain ⟨w, s', hw, -⟩ := detect_numbered hs h
    exact ⟨w, s', hw⟩

theorem numbered_detect : Keeps Numbered (detect p r d o c now) := by
  rw [detect_eq]
  refine keeps_ofReading.bind fun topic => keeps_ofReading.bind fun _ s hs => ⟨?_, fun _ _ => trivial⟩
  have hs' := hs.bump .violation
  rw [outcome_bind, show outcome (fresh .violation) s = _ from returns_fresh .violation s]
  dsimp only
  rw [outcome_bind, outcome_ofReading]
  cases r.metadata.part "tags" with
  | error f => exact hs'
  | ok m =>
    dsimp only
    by_cases hparts : ∀ part ∈ Finding.parts p r d, part.isWritable = true
    · obtain ⟨v, hv, hgiven⟩ := hs.given
      rw [← count_bump_self] at hgiven
      obtain ⟨w, t, hw, ht⟩ : ∃ w t, Returns (record now (Finding.violationOf p r d o c now topic _ m))
          { s with ids := s.ids.bump .violation } w t ∧ Numbered t :=
        record_numbered hparts hs'.unlogged hv hgiven rfl
      rw [show outcome (record now _) _ = _ from hw]
      exact ht
    · unfold record
      rw [outcome_bind, liftM_eq_ofReading, outcome_ofReading, Value.checkAll, if_neg]
      · exact hs'
      · rw [List.all_eq_true]
        exact hparts

end Findings

/-! ## Rules, policies, evaluations -/

/-- All that the check of a rule reads can be read: which exception sets it aside; if none does, its
conditions; and if it fires, what goes into the finding. -/
structure RuleReady (d : Dependency) (data : EvaluationData) (now : Timestamp) (p : Policy) (r : Rule) :
    Prop where
  exception : ∃ o, p.exceptionFor r d now = .ok o
  folds : p.waiver d now r = none → Folds data r
  finding : fires d data now (p, r) = true → Nameable p r d

/-- All that the check of a policy reads can be read: its scope, and if the dependency is in it, what
the check of each enabled rule reads. -/
structure PolicyReady (d : Dependency) (data : EvaluationData) (c : EvaluationContext) (now : Timestamp)
    (p : Policy) : Prop where
  scope : ∃ scope, p.scope = .held scope
  rules : p.inScope d c = true → ∀ r ∈ p.rules, r.enabled.truthy = true → RuleReady d data now p r

/-- All that the evaluation of a dependency reads can be read. -/
def Ready (d : Dependency) (policies : List Policy) (c : EvaluationContext) (now : Timestamp) : Prop :=
  ∃ data order, EvaluationData.of d c now = .ok data ∧ Policy.active policies = .ok order ∧
    ∀ p ∈ order, PolicyReady d data c now p

/-- A dependency whose name cannot be written is not ready, for its identity cannot be written then. -/
theorem Ready.name {d : Dependency} {policies : List Policy} {c : EvaluationContext} {now : Timestamp}
    (h : Ready d policies c now) : d.name.isWritable = true := by
  obtain ⟨data, -, hdata, -⟩ := h
  exact (EvaluationData.of_ok_iff.mp ⟨data, hdata⟩).2

section Evaluate

variable {s : GateState} {d : Dependency} {data : EvaluationData} {c : EvaluationContext}
  {now : Timestamp}

theorem numbered_checkRule {p : Policy} {t : Tally} {r : Rule} :
    Keeps Numbered (checkRule p d data c now t r) := by
  cases he : r.enabled.truthy with
  | false =>
    unfold checkRule
    simp only [he, Bool.not_false, if_true]
    exact keeps_pure
  | true =>
    rw [checkRule_eq _ _ _ _ _ _ _ he]
    refine keeps_ofReading.bind fun o => ?_
    cases o with
    | some e => exact keeps_pure
    | none =>
      refine keeps_ofReading.bind fun outcome => ?_
      split
      · exact keeps_pure
      · exact Keeps.bind numbered_detect fun _ => keeps_pure

/-- Of a rule whose conditions were folded, the finding is detected if they fold to true. -/
theorem succeeds_found_iff {p : Policy} {t : Tally} {r : Rule} {o : ConditionOutcome} (hs : Numbered s) :
    Succeeds (if !o.triggered then return t
      else return t.addFinding r (← detect p r d o c now)) s ↔
      (o.triggered = true → Nameable p r d) := by
  cases o.triggered with
  | false => simp [succeeds_pure]
  | true =>
    simp only [Bool.not_true, Bool.false_eq_true, if_false, forall_true_left]
    exact succeeds_bind_pure.trans (succeeds_detect_iff hs)

theorem succeeds_checkRule_iff {p : Policy} {t : Tally} {r : Rule} (hs : Numbered s) :
    Succeeds (checkRule p d data c now t r) s ↔ (r.enabled.truthy = true → RuleReady d data now p r) := by
  cases he : r.enabled.truthy with
  | false =>
    unfold checkRule
    simp only [he, Bool.not_false, if_true]
    simp [succeeds_pure]
  | true =>
    rw [checkRule_eq _ _ _ _ _ _ _ he, succeeds_ofReading_bind]
    constructor
    · rintro ⟨o, ho, h⟩ -
      obtain rfl := Policy.exceptionFor_ok ho
      cases hw : p.waiver d now r with
      | some e => exact ⟨⟨_, ho⟩, by simp [hw], by simp [fires, hw]⟩
      | none =>
        rw [hw] at h
        obtain ⟨outcome, hof, h⟩ := succeeds_ofReading_bind.mp h
        have hready := (succeeds_found_iff hs).mp h
        have hfires : fires d data now (p, r) = outcome.triggered := by
          simp [fires, hw, Rule.holdsOn, hof]
        exact ⟨⟨_, ho⟩, fun _ => ⟨outcome, hof⟩, fun hf => hready (hfires.symm.trans hf)⟩
    · intro hready
      obtain ⟨⟨o, ho⟩, hfolds, hfinding⟩ := hready rfl
      obtain rfl := Policy.exceptionFor_ok ho
      refine ⟨_, ho, ?_⟩
      cases hw : p.waiver d now r with
      | some e => exact succeeds_pure
      | none =>
        obtain ⟨outcome, hof⟩ := hfolds hw
        have hfires : fires d data now (p, r) = outcome.triggered := by
          simp [fires, hw, Rule.holdsOn, hof]
        refine succeeds_ofReading_bind.mpr ⟨outcome, hof, (succeeds_found_iff hs).mpr fun ht => ?_⟩
        exact hfinding (hfires.trans ht)

theorem numbered_checkPolicy {p : Policy} {t : Tally} : Keeps Numbered (checkPolicy d data c now t p) := by
  refine keeps_ofReading.bind fun b => ?_
  cases b with
  | false => exact keeps_pure
  | true => exact Yields.foldlM (T := fun _ _ => True) trivial fun _ _ _ _ _ => numbered_checkRule

theorem appliesTo_eq_ok {p : Policy} {b : Bool} :
    p.appliesTo d c = .ok b ↔ (∃ scope, p.scope = .held scope) ∧ b = p.inScope d c := by
  constructor
  · intro h
    obtain ⟨scope, hs, -⟩ := Reading.bind_eq_ok.mp h
    exact ⟨⟨scope, Loose.part_eq_ok.mp hs⟩, Policy.appliesTo_ok h⟩
  · rintro ⟨⟨scope, hs⟩, rfl⟩
    obtain ⟨b, hb⟩ : ∃ b, p.appliesTo d c = .ok b :=
      ⟨_, Reading.bind_eq_ok.mpr ⟨scope, Loose.part_eq_ok.mpr hs, rfl⟩⟩
    rw [hb, Policy.appliesTo_ok hb]

theorem succeeds_checkPolicy_iff {p : Policy} {t : Tally} (hs : Numbered s) :
    Succeeds (checkPolicy d data c now t p) s ↔ PolicyReady d data c now p := by
  unfold checkPolicy
  rw [liftM_eq_ofReading, succeeds_ofReading_bind]
  simp only [appliesTo_eq_ok]
  have hfold : ∀ t : Tally, Succeeds (p.rules.foldlM (checkRule p d data c now) t) s ↔
      ∀ r ∈ p.rules, r.enabled.truthy = true → RuleReady d data now p r := fun t =>
    succeeds_foldlM_iff hs (fun _ _ _ => numbered_checkRule) fun _ _ _ _ ht => succeeds_checkRule_iff ht
  constructor
  · rintro ⟨b, ⟨hscope, rfl⟩, h⟩
    refine ⟨hscope, fun hin => ?_⟩
    rw [if_pos hin] at h
    exact (hfold _).mp h
  · rintro ⟨hscope, hrules⟩
    refine ⟨_, ⟨hscope, rfl⟩, ?_⟩
    split
    · next hin => exact (hfold _).mpr (hrules hin)
    · exact succeeds_pure

/-- **When an evaluation returns.** Where the violations on record have ids that were given out, the
evaluation of a dependency returns just when all that it reads can be read. -/
theorem succeeds_evaluateDependency_iff {policies : List Policy} (hs : Numbered s) :
    Succeeds (evaluateDependency d policies c) s ↔ Ready d policies c (evaluationTime c s) := by
  rw [evaluateDependency_eq, succeeds_get_bind, succeeds_ofReading_bind]
  simp only [succeeds_ofReading_bind, succeeds_bind_pure]
  have hfold : ∀ data (order : List Policy), Succeeds
      (order.foldlM (checkPolicy d data c (evaluationTime c s)) .empty) s ↔
        ∀ p ∈ order, PolicyReady d data c (evaluationTime c s) p := fun data order =>
    succeeds_foldlM_iff hs (fun _ _ _ => numbered_checkPolicy) fun _ _ _ _ ht => succeeds_checkPolicy_iff ht
  simp only [hfold, Ready]
  constructor
  · rintro ⟨data, hdata, order, horder, h⟩
    exact ⟨data, order, hdata, horder, h⟩
  · rintro ⟨data, order, hdata, horder, h⟩
    exact ⟨data, hdata, order, horder, h⟩

end Evaluate

end SupplyGate.Gate
