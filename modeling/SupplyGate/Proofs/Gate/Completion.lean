import SupplyGate.Proofs.Gate.Runs
import SupplyGate.Proofs.Gate.Summary
import SupplyGate.Proofs.Policy.Validation

/-!
# Runs that get to their end

A turn catches what goes wrong in it. So a run against accepted policies fails only where the policies cannot be
put in order, where an event cannot be told, or where the result cannot be made and kept. An invariant under which
the last two cannot happen is `Completing`, and then the run returns (`Completing.succeeds_evaluateAll`).
-/

namespace SupplyGate.Gate

/-- An invariant of runs under which results can be kept, events can be told, and the findings of accepted policies can
be counted. -/
structure Completing (I : GateState → Prop) : Prop extends RunLaw I where
  results : ∀ s, I s → ∃ m, s.evaluations = .memory m
  tells : ∀ s e, I s → Succeeds (publish e) s
  detects : ∀ p r d o c now, p.Accepted → r ∈ p.rules → Yields I (detect p r d o c now) (·.Countable)

/-- The totals that a run tells are integers. -/
structure Totalled (r : EnforcementResult) : Prop where
  violations : ∃ n, r.summary.violationsDetected = .int n
  blocked : ∃ n, r.summary.blockedDependencies = .int n
  skipped : ∃ n, r.skipped = .int n

section Summaries

variable {policies : List Policy} {c : EvaluationContext} {turns : List (Dependency × Turn)}

/-- The evaluations of turns that report countable findings can be summarized. -/
theorem summarize_of_reported {l : List (Dependency × Nat)} (executed : List ExecutedAction)
    (h : List.Forall₂ (fun dn t => ∀ e executed, t.2 = Turn.evaluated e executed →
      Reported (fun _ v => v.Countable) dn.1 policies c e) l turns) :
    ∃ summary, summarize policies (evaluationsOf turns) executed = .ok summary := by
  have hreported : ∀ e ∈ evaluationsOf turns, ∃ d, Reported (fun _ v => v.Countable) d policies c e := by
    intro e he
    obtain ⟨t, ht, executed, hte⟩ := mem_evaluationsOf.mp he
    obtain ⟨dn, -, hdn⟩ := exists_of_forall₂ h t ht
    exact ⟨dn.1, hdn e executed hte⟩
  refine summarize_ok (fun e he => ?_) fun e he => ?_
  · obtain ⟨d, data, now, order, -, -, hR⟩ := hreported e he
    exact ⟨_, hR.rulesEvaluated⟩
  · obtain ⟨d, hR⟩ := hreported e he
    exact hR.findings

theorem summarize_totals {evaluations : List Evaluation} {executed : List ExecutedAction} {summary : EnforcementSummary}
    (h : summarize policies evaluations executed = .ok summary) :
    (∃ n, summary.violationsDetected = .int n) ∧ ∃ n, summary.blockedDependencies = .int n := by
  obtain ⟨total, -, h⟩ := Reading.bind_eq_ok.mp h
  refine foldlM_keeps (P := fun s => (∃ n, s.violationsDetected = .int n) ∧ ∃ n, s.blockedDependencies = .int n)
    (fun v _ s s' hs hadd => ?_) ⟨⟨_, rfl⟩, _, rfl⟩ h
  obtain ⟨severity, -, hadd⟩ := Reading.bind_eq_ok.mp hadd
  obtain ⟨severities, -, hadd⟩ := Reading.bind_eq_ok.mp hadd
  obtain ⟨policyId, -, hadd⟩ := Reading.bind_eq_ok.mp hadd
  obtain ⟨policies, -, hadd⟩ := Reading.bind_eq_ok.mp hadd
  obtain rfl := Reading.pure_eq_ok.mp hadd
  exact hs

end Summaries

theorem accepted_of_active {policies active : List Policy} {tenantId : Value} (hp : ∀ p ∈ policies, p.Accepted)
    (h : Policy.active (policies.filter (·.tenantId.same tenantId)) = .ok active) : ∀ p ∈ active, p.Accepted :=
  fun p hmem => hp p (List.mem_of_mem_filter (mem_of_active h p hmem))

namespace Completing

variable {I : GateState → Prop} {others : Collaborators} {ds : List Dependency}
  {evaluationId tenantId : Value} {policies active : List Policy} {c : EvaluationContext} {cancel : Cancellation}
  {before : Nat} {start : Timestamp} {s : GateState}

/-- A result with a key for its id can be kept. -/
theorem succeeds_keepResult (C : Completing I) {r : EnforcementResult} {k : Scalar} (hid : r.evaluationId = .scalar k)
    (hs : I s) : Succeeds (keep .evaluations r) s := by
  obtain ⟨m, hm⟩ := C.results s hs
  have hkey : MemoryStore.keyOf r = .ok k.key := by
    change r.evaluationId.asKey = _
    rw [hid]
    rfl
  have hput : (Shelf.evaluations.read s).put r = .ok (.memory (m.store k.key r)) := by
    rw [show Shelf.evaluations.read s = .memory m from hm]
    exact Store.put_memory.mpr ⟨_, MemoryStore.put_ok.mpr ⟨k.key, hkey, rfl⟩, rfl⟩
  exact ⟨(), _, (returns_keep _).mpr ⟨_, hput, rfl⟩⟩

variable (C : Completing I) (hp : ∀ p ∈ policies, p.Accepted)
include C hp

theorem yields_turn (dn : Dependency × Nat) :
    Yields I (turn others evaluationId tenantId policies c cancel before dn) fun t =>
      ∀ e executed, t.2 = .evaluated e executed → Reported (fun _ v => v.Countable) dn.1 policies c e :=
  (C.toRoutine.yields_turn dn.2 fun p hmem r hr o now => C.detects p r dn.1 o c now (hp p hmem) hr).mono
    fun _ ht => ht.2

/-- A turn does not fail if the name of its dependency can be written: where it cannot be evaluated, it is skipped. -/
theorem succeeds_turn {d : Dependency} (k : Nat) (hname : d.name.isWritable = true) (hs : I s) :
    Succeeds (turn others evaluationId tenantId policies c cancel before (d, k)) s := by
  rw [turn_eq, succeeds_get_bind]
  split
  · exact succeeds_pure
  · rw [succeeds_bind_pure]
    refine succeeds_tryCatch fun f t hf => ?_
    have hkeeps : Yields I (evaluateAndAct others policies c d) fun t =>
        ∀ e executed, t = .evaluated e executed → Reported (fun _ v => v.Countable) d policies c e :=
      C.toRoutine.yields_evaluateAndAct fun p hmem r hr o now => C.detects p r d o c now (hp p hmem) hr
    have hlog : Value.checkAll [d.name] = .ok () := Value.checkAll_eq_ok.mpr (by simpa using hname)
    refine succeeds_ofReading_bind.mpr ⟨(), hlog, ?_⟩
    rw [succeeds_bind_pure]
    exact C.tells t _ (hkeeps.fails hs hf)

theorem keeps_runTurns :
    Keeps I (runTurns others evaluationId tenantId policies c cancel before start ds) :=
  Yields.keeps <| C.toRoutine.yields_runTurns (R := fun _ _ v => v.Countable) fun p hmem _ r hr d _ o now =>
    C.detects p r d o c now (hp p hmem) hr

/-- The turns of a run do not fail, nor does what comes after them. -/
theorem succeeds_runTurns (hactive : Policy.active (policies.filter (·.tenantId.same tenantId)) = .ok active)
    {id : String} (hnames : ∀ d ∈ ds, d.name.isWritable = true) (hs : I s) :
    Succeeds (runTurns others id tenantId policies c cancel before start ds) s := by
  have haccepted := accepted_of_active hp hactive
  refine succeeds_ofReading_bind.mpr ⟨active, hactive, ?_⟩
  refine succeeds_bind (.takeAll fun dn _ => C.yields_turn haccepted dn) hs ?_ fun turns t ht hturns => ?_
  · refine succeeds_takeAll.mpr (succeeds_mapM hs (fun dn _ => (C.yields_turn haccepted dn).keeps) fun dn hdn t ht => ?_)
    have hmem : dn.1 ∈ ds := List.fst_mem_of_mem_zipIdx hdn
    exact C.succeeds_turn haccepted dn.2 (hnames dn.1 hmem) ht
  · refine succeeds_bind (I := I) keeps_clock ht ⟨_, _, outcome_clock t⟩ fun finish t ht _ => ?_
    obtain ⟨summary, hsummary⟩ := summarize_of_reported (executedOf turns) hturns
    refine succeeds_ofReading_bind.mpr ⟨summary, hsummary, succeeds_bind_pure.mpr ?_⟩
    exact C.succeeds_keepResult rfl ht

/-- **Runs get to their end.** A run against accepted policies returns where those of the tenant can be put in
order and the names of the dependencies can be written. -/
theorem succeeds_evaluateAll (hactive : Policy.active (policies.filter (·.tenantId.same tenantId)) = .ok active)
    (hnames : ∀ d ∈ ds, d.name.isWritable = true) (hs : I s) :
    Succeeds (evaluateAll others ds tenantId policies c cancel) s := by
  rw [evaluateAll_eq]
  refine succeeds_bind (C.toRoutine.yields_fresh .evaluation) hs ⟨_, _, rfl⟩ fun evaluationId t ht hid => ?_
  obtain ⟨id, rfl⟩ := hid
  rw [succeeds_get_bind]
  refine succeeds_bind (C.keeps_publish _) ht (C.tells t _ ht) fun _ t ht _ => ?_
  refine succeeds_bind (Keeps.tryCatch (C.keeps_runTurns hp) fun f => ?_) ht
    (C.succeeds_runTurns hp hactive hnames ht).tryCatch fun r t ht _ => succeeds_bind_pure.mpr (C.tells t _ ht)
  exact (C.keeps_publish _).bind fun _ => keeps_throw

end Completing

end SupplyGate.Gate
