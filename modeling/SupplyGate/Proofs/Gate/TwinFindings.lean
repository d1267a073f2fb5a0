import SupplyGate.Proofs.Gate.Twins
import SupplyGate.Proofs.Gate.Unsaid

/-!
# Findings of twins

From twins, a finding is filed alike, whether as it was found or as its document gives it. So the evaluation of a
dependency against some policies agrees with its evaluation against what their documents give.
-/

namespace SupplyGate

theorem Finding.seenAgain_asRead (now : Timestamp) (found old : Violation) :
    Finding.seenAgain now found.asRead old.asRead = (Finding.seenAgain now found old).asRead := by
  unfold Finding.seenAgain
  change (if old.status = .resolved then _ else _) = _
  split <;> rfl

/-- A violation on record that is detected again is changed as its document is. -/
theorem changes_seenAgain {v : Violation} (hv : v.Storable) {now : Timestamp} (hnow : now.Fixed) :
    Store.Mirrors.Changes (Finding.seenAgain now v) (Finding.seenAgain now v.asRead) where
  kept h := h.seenAgain hv hnow
  ident := Finding.id_seenAgain now v
  tenant old := by
    unfold Finding.seenAgain
    split <;> rfl
  asRead old := Finding.seenAgain_asRead now v old

/-! ## Tallies -/

namespace Tally

/-- The tally with its findings as documents give them. -/
def asRead (t : Tally) : Tally :=
  { t with violations := t.violations.map Violation.asRead, warnings := t.warnings.map Violation.asRead }

/-- Rows can hold what the tally has. -/
structure Kept (t : Tally) : Prop where
  policyIds : ∀ id ∈ t.policyIds, id.Storable
  violations : ∀ v ∈ t.violations, v.Kept
  warnings : ∀ v ∈ t.warnings, v.Kept
  exceptions : ∀ e ∈ t.exceptions, e.Kept

theorem addFinding_asRead (t : Tally) (r : Rule) (v : Violation) :
    (t.addFinding r v).asRead = t.asRead.addFinding r.asRead v.asRead := by
  unfold addFinding
  rw [r.isBlocking_asRead]
  dsimp only
  split
  · simp [asRead]
  · simp [asRead]

theorem Kept.addFinding {t : Tally} (h : t.Kept) {r : Rule} {v : Violation} (hv : v.Kept) : (t.addFinding r v).Kept := by
  unfold Tally.addFinding
  dsimp only
  split
  · exact { h with violations := List.forall_mem_append.mpr ⟨h.violations, List.forall_mem_singleton.mpr hv⟩ }
  · exact { h with warnings := List.forall_mem_append.mpr ⟨h.warnings, List.forall_mem_singleton.mpr hv⟩ }

end Tally

/-- Rows can hold what is noted, but for the id that a finding gets. -/
def Note.Kept : Note → Prop
  | .taken id => id.Storable
  | .quiet => True
  | .excepted e => e.Kept
  | .found _ v => v.Storable

namespace Gate

variable {now : Timestamp}

/-! ## Filing -/

/-- What finding or adding a violation gave, and what it gave as documents give it. -/
def FoundReads (found found' : Found Violation) : Prop :=
  found' = ⟨found.record.asRead, found.previous.map Violation.asRead⟩ ∧ found.record.Kept

/-- A violation under the next id is found, or added. -/
theorem alike_findOrAdd {s t : GateState} (hst : Twins s t) (hnow : now.Fixed) {v : Violation} (hv : v.Storable)
    (hid : v.id = .str (Ids.textOf .violation (s.ids.count .violation)))
    (hgiven : ∃ m, s.violations = .memory m ∧ m.Every (Given (s.ids.count .violation))) :
    Alike FoundReads (outcome (findOrAdd .violations v.key v (Finding.seenAgain now v)) s)
      (outcome (findOrAdd .violations v.asRead.key v.asRead (Finding.seenAgain now v.asRead)) t) := by
  obtain ⟨m, hm, hgiven⟩ := hgiven
  have hkept : v.Kept := { hv with id := ⟨_, hid⟩ }
  have hmirrors := hst.violations
  rw [hm] at hmirrors
  obtain ⟨found, s', t', hs, ht, h, hrecord⟩ := hmirrors.getOrAdd s.now v.key (changes_seenAgain hv hnow) hkept hid
    (lookup_given hgiven) (Ids.textOf_ne_empty _ _)
  obtain ⟨found', m', hgetOrAdd, hgiven'⟩ := getOrAdd_given now hgiven hid
  obtain ⟨m'', hm'', rfl⟩ := Store.getOrAdd_memory.mp hs
  cases hgetOrAdd.symm.trans hm''
  have hs : (Shelf.violations.read s).getOrAdd s.now v.key v (Finding.seenAgain now v) = .ok (found, .memory m') := by
    rw [show Shelf.violations.read s = .memory m from hm]
    exact hs
  have ht : (Shelf.violations.read t).getOrAdd t.now v.asRead.key v.asRead (Finding.seenAgain now v.asRead) = _ := hst.now ▸ ht
  rw [outcome_findOrAdd, outcome_findOrAdd, hs, ht]
  exact .returned ⟨rfl, hrecord⟩
    { hst with violations := h, numbered := ⟨hst.numbered.unlogged, m', rfl, hgiven'⟩ }

/-- A violation under the next id is recorded. -/
theorem alike_record {s t : GateState} (hst : Twins s t) (hnow : now.Fixed) {v : Violation} (hv : v.Storable)
    (hid : v.id = .str (Ids.textOf .violation (s.ids.count .violation)))
    (hgiven : ∃ m, s.violations = .memory m ∧ m.Every (Given (s.ids.count .violation))) :
    Alike Reads (outcome (record now v) s) (outcome (record now v.asRead) t) := by
  unfold record
  simp only [liftM_eq_ofReading]
  rw [show v.asRead.keyParts = v.keyParts from rfl]
  cases Value.checkAll v.keyParts with
  | error f => exact .refused hst
  | ok u =>
  rw [outcome_bind_ok (outcome_ofReading (.ok u) s), outcome_bind_ok (outcome_ofReading (.ok u) t)]
  refine (alike_findOrAdd hst hnow hv hid hgiven).bind fun found found' h => ?_
  obtain ⟨rfl, hkept⟩ := h
  cases found.previous with
  | none => exact .pure ⟨rfl, hkept⟩
  | some old =>
    change Agree Reads (if old.status = .resolved then _ else _) (if old.status = .resolved then _ else _)
    split
    · exact (agree_publish rfl).bind fun _ _ _ => .pure ⟨rfl, hkept⟩
    · exact .pure ⟨rfl, hkept⟩

/-- A finding is filed alike, as it was found and as its document gives it. -/
theorem agree_file (hnow : now.Fixed) {v : Violation} (hv : v.Storable) : Agree Reads (file now v) (file now v.asRead) := by
  intro s t hst
  obtain ⟨m, hm, hgiven⟩ := hst.numbered.given
  have hids : t.ids = s.ids := hst.ids
  let text := Ids.textOf .violation ((s.ids.bump .violation).count .violation)
  have hfresh : outcome (fresh .violation) t = (.ok (.str text), { t with ids := s.ids.bump .violation }) := by
    rw [show outcome (fresh .violation) t = _ from returns_fresh .violation t, hids]
  have htwins : Twins { s with ids := s.ids.bump .violation } { t with ids := s.ids.bump .violation } :=
    { hst with ids := rfl, numbered := hst.numbered.bump .violation }
  unfold file
  rw [outcome_bind, outcome_bind, hfresh, show outcome (fresh .violation) s = _ from returns_fresh .violation s]
  refine alike_record htwins hnow (v := { v with id := .str text }) { hv with } rfl ⟨m, hm, ?_⟩
  rw [count_bump_self]
  exact hgiven

/-! ## Courses -/

/-- A tally that rows can hold, and the tally with its findings as documents give them. -/
def TallyReads (t t' : Tally) : Prop := t' = t.asRead ∧ t.Kept

theorem agree_fileNote (hnow : now.Fixed) {n : Note} (hn : n.Kept) {t t' : Tally} (ht : TallyReads t t') :
    Agree TallyReads (fileNote now t n) (fileNote now t' n.asRead) := by
  obtain ⟨rfl, hkept⟩ := ht
  cases n with
  | taken id => exact .pure ⟨rfl, { hkept with policyIds := List.forall_mem_append.mpr ⟨hkept.policyIds, List.forall_mem_singleton.mpr hn⟩ }⟩
  | quiet => exact .pure ⟨rfl, { hkept with }⟩
  | excepted e => exact .pure ⟨rfl, { hkept with exceptions := List.forall_mem_append.mpr ⟨hkept.exceptions, List.forall_mem_singleton.mpr hn⟩ }⟩
  | found r v =>
    refine (agree_file hnow hn).bind fun w w' hw => .pure ?_
    obtain ⟨rfl, hw⟩ := hw
    let counted : Tally := { t with rulesEvaluated := t.rulesEvaluated + 1 }
    have hcounted : counted.Kept := { hkept with }
    exact ⟨(counted.addFinding_asRead r w).symm, hcounted.addFinding hw⟩

theorem agree_fileCourse (hnow : now.Fixed) {x : Course} (hx : x.Every Note.Kept) {t t' : Tally} (ht : TallyReads t t') :
    Agree TallyReads (fileCourse now x t) (fileCourse now x.asRead t') := by
  have hnotes : List.Forall₂ (fun n n' => n' = n.asRead ∧ n.Kept) x.notes (x.notes.map Note.asRead) :=
    forall₂_graph.mpr ⟨rfl, hx⟩
  refine Agree.bind (.foldlM hnotes (fun t t' n n' ht hn => ?_) ht) fun t t' ht => ?_
  · obtain ⟨rfl, hn⟩ := hn
    exact agree_fileNote hnow hn ht
  · dsimp only [Course.asRead]
    cases x.stop with
    | none => exact .pure ht
    | some e =>
      change Agree _ (raise e) (raise e)
      unfold raise
      split
      · exact (agree_fresh .violation).discard.bind fun _ _ _ => .throw
      · exact .throw

/-! ## Evaluations -/

section Evaluate

variable {d : Dependency} {c : EvaluationContext} {policies : List Policy}

/-- What policies, dependencies and contexts that rows can hold give can be held by rows. -/
theorem kept_dependencyCourse (hd : d.Documented ∧ d.toDoc.Storable) (hc : c.Storable) (hnow : now.Fixed)
    (hp : ∀ p ∈ policies, p.Kept) : (dependencyCourse d c now policies).Every Note.Kept := by
  refine dependencyCourse_every (fun p hmem => ?_) trivial (fun p hmem r e he => ?_) ?_
  · obtain ⟨id, hid⟩ := (hp p hmem).id
    exact hid ▸ .str id
  · obtain ⟨es, hes, hkept⟩ := (hp p hmem).exceptions
    have hheld : p.heldExceptions = es := by
      rw [Policy.heldExceptions, hes]
      simp [List.filterMap_map, Function.comp_def, Loose.get?]
    exact hkept e (hheld ▸ List.mem_of_find?_eq_some (Policy.exceptionFor_ok he).symm)
  · intro data hdata p hmem r hr outcome houtcome topic metadata hmetadata
    have hstorable := Field.storable_data hd.1 hd.2 hc hdata
    exact fun _ => Finding.storable_violationOf (hp p hmem) ((hp p hmem).rules r hr) hd hc hstorable houtcome hnow hmetadata topic .null

/-- What a tally comes to, and what the tally with its findings as documents give them comes to. -/
def EvaluationReads (e e' : Evaluation) : Prop := e' = e.asRead ∧ e.Kept

theorem TallyReads.evaluation {t t' : Tally} (h : TallyReads t t') (hnow : now.Fixed) :
    EvaluationReads (t.evaluation d now) (t'.evaluation d now) := by
  obtain ⟨rfl, hkept⟩ := h
  refine ⟨?_, {
    dependencyId := .str _
    policyIds := hkept.policyIds
    violations := hkept.violations
    warnings := hkept.warnings
    exceptions := hkept.exceptions
    evaluatedAt := hnow
    duration := .float _
    rulesEvaluated := ⟨_, rfl⟩
    rulesTriggered := .int _
    actionsExecuted := .int _ }⟩
  simp [Tally.evaluation, Tally.asRead, Evaluation.asRead, EvaluationStatus.ofFindings]

/-- **Evaluating a dependency** against policies agrees with evaluating it against what their documents give. -/
theorem agree_evaluateDependency (hd : d.Documented ∧ d.toDoc.Storable) (hc : c.Storable) (hp : ∀ p ∈ policies, p.Kept) :
    Agree EvaluationReads (evaluateDependency d policies c) (evaluateDependency d (policies.map Policy.asRead) c) := by
  rw [evaluateDependency_eq_course, evaluateDependency_eq_course]
  refine Agree.get.bind fun s t hst => ?_
  have hnow : (evaluationTime c s).Fixed := Value.fixed_getD hc.now hst.fixed
  dsimp only
  rw [show evaluationTime c t = evaluationTime c s from congrArg c.now.getD hst.now, dependencyCourse_asRead]
  refine (agree_fileCourse hnow (kept_dependencyCourse hd hc hnow hp) ⟨rfl, ?_⟩).bind fun t t' ht => .pure (ht.evaluation hnow)
  exact ⟨by simp [Tally.empty], by simp [Tally.empty], by simp [Tally.empty], by simp [Tally.empty]⟩

end Evaluate

end Gate

end SupplyGate
