import SupplyGate.Proofs.Gate.Runs
import SupplyGate.Proofs.Gate.Summary
import SupplyGate.Proofs.Gate.TwinActions

/-!
# Runs of twins

A run over a batch agrees with the run over the batch against what the documents of the policies give: each turn ends
alike, the totals are the same, and the results that are kept are the result and what its document gives
(`agree_evaluateAll`). A run may be cancelled by what its events tell.
-/

namespace SupplyGate

/-! ## Totals -/

/-- The totals count under texts, and rows can hold them. -/
structure EnforcementSummary.Kept (s : EnforcementSummary) : Prop extends Gate.SummaryCounting s where
  documented : s.Documented
  storable : s.toDoc.Storable

namespace Gate

theorem addToSummary_kept {s : EnforcementSummary} {v : Violation} (hs : s.Kept) (hv : v.Kept) :
    ∃ s', addToSummary s v = .ok s' ∧ s'.Kept := by
  obtain ⟨severity, hseverity⟩ := hv.severity
  obtain ⟨policyId, hpolicy⟩ := hv.policyId
  obtain ⟨m, n, hadd⟩ := addToSummary_eq hs.toSummaryCounting hseverity hpolicy
  have hparts := hs.storable
  simp only [EnforcementSummary.toDoc, Value.storable_fields, List.forall_mem_cons] at hparts
  obtain ⟨-, hpolicies, hrules, hviolations, hactions, hblocked, hseverities, hids, -⟩ := hparts
  refine ⟨_, hadd, {
    severities := counting_insert hs.severities _ m
    policies := counting_insert hs.policies _ n
    documented := hs.documented.insert _ _
    storable := ?_ }⟩
  simp only [EnforcementSummary.toDoc, Value.storable_fields, List.forall_mem_cons]
  exact ⟨by simp [List.nodup_cons], hpolicies, hrules, hviolations, hactions, hblocked,
    Value.storable_insert hseverities _ (.int m), Value.storable_insert hids policyId (.int n), by simp⟩

theorem Uncounted.kept {s : EnforcementSummary} (h : Uncounted s) : s.Kept where
  toSummaryCounting := h.counting
  documented := by
    rw [EnforcementSummary.Documented, h.severities]
    exact .refl EnforcementSummary.apart_noSeverities
  storable := by
    have hint : ∀ {v : Value}, (∃ n, v = .int n) → v.Storable := fun ⟨n, hn⟩ => hn ▸ .int n
    obtain ⟨hpolicies, hrules, hviolations, hactions, hblocked, -⟩ := by simpa only [List.forall_mem_cons] using h.totals
    have hseverities : (Value.map EnforcementSummary.noSeverities).Storable := by
      have honce : (EnforcementSummary.noSeverities.map (·.1)).Nodup := by
        rw [EnforcementSummary.noSeverities, List.map_map]
        exact List.Nodup.map (fun _ _ h => Severity.toText_injective (Scalar.str.inj h)) (by decide)
      refine Value.storable_map.mpr ⟨?_, honce, ?_⟩ <;> simp [EnforcementSummary.noSeverities]
    simp only [EnforcementSummary.toDoc, Value.storable_fields, List.forall_mem_cons, h.severities, h.policies]
    exact ⟨by simp [List.nodup_cons], hint hpolicies, hint hrules, hint hviolations, hint hactions, hint hblocked, hseverities,
      by simp [Value.storable_map], by simp⟩

variable {policies : List Policy} {evaluations : List Evaluation} {executed : List ExecutedAction}

/-- The totals of evaluations that rows can hold can be held by rows. -/
theorem kept_summarize (h : ∀ e ∈ evaluations, e.Kept) {summary : EnforcementSummary}
    (hsummary : summarize policies evaluations executed = .ok summary) : summary.Kept := by
  obtain ⟨start, hstart, heq⟩ := summarize_eq policies executed fun e he => (h e he).rulesEvaluated
  have hstep : ∀ v ∈ evaluations.flatMap Evaluation.findings, ∀ s : EnforcementSummary, s.Kept →
      ∃ s', addToSummary s v = .ok s' ∧ s'.Kept := by
    intro v hv s hs
    obtain ⟨e, he, hve⟩ := List.mem_flatMap.mp hv
    rcases List.mem_append.mp hve with hve | hve
    · exact addToSummary_kept hs ((h e he).violations v hve)
    · exact addToSummary_kept hs ((h e he).warnings v hve)
  obtain ⟨summary', hfold, hkept⟩ := exists_foldlM_ok hstep hstart.kept
  rw [hsummary, hfold] at heq
  cases heq
  exact hkept

/-- The totals are those of what the documents give. -/
theorem summarize_asRead (policies : List Policy) (evaluations : List Evaluation) (executed : List ExecutedAction) :
    summarize (policies.map Policy.asRead) (evaluations.map Evaluation.asRead) executed =
      summarize policies evaluations executed := by
  have hfindings : (evaluations.map Evaluation.asRead).flatMap Evaluation.findings =
      (evaluations.flatMap Evaluation.findings).map Violation.asRead := by
    rw [List.flatMap_map, List.map_flatMap]
    refine List.flatMap_congr fun e _ => ?_
    exact (List.map_append ..).symm
  have hviolations : ((evaluations.map Evaluation.asRead).flatMap (·.violations)).length =
      (evaluations.flatMap (·.violations)).length := by
    simp [List.length_flatMap, Evaluation.asRead, Function.comp_def]
  have hblocked : (evaluations.map Evaluation.asRead).countP Evaluation.isBlocked = evaluations.countP Evaluation.isBlocked := by
    rw [List.countP_map]
    exact congrArg (List.countP · evaluations) (funext Evaluation.isBlocked_asRead)
  unfold summarize
  rw [List.length_map, hviolations, hblocked, hfindings, List.map_map]
  simp only [List.foldlM_map]
  rfl

/-! ## Turns -/

/-- The cancellation that looks at what the events of a run tell. -/
def Cancellation.told (stop : Nat → List (String × Payload) → Bool) : Cancellation := fun n es => stop n (es.map Event.told)

namespace Turn

/-- The turn with its evaluation as documents give it. -/
def asRead : Turn → Turn
  | .evaluated e executed => .evaluated e.asRead executed
  | .skipped error => .skipped error
  | .cancelled => .cancelled

/-- Rows can hold what the turn gave. -/
def Kept : Turn → Prop
  | .evaluated e executed => e.Kept ∧ ∀ a ∈ executed, a.Kept
  | _ => True

end Turn

/-- The turn of a dependency, and the turn as documents give it. -/
def TurnReads (t t' : Dependency × Turn) : Prop := t' = (t.1, t.2.asRead) ∧ t.2.Kept

section Turns

variable {turns : List (Dependency × Turn)}

theorem evaluationsOf_asRead (turns : List (Dependency × Turn)) :
    evaluationsOf (turns.map fun t => (t.1, t.2.asRead)) = (evaluationsOf turns).map Evaluation.asRead := by
  unfold evaluationsOf
  rw [List.filterMap_map, List.map_filterMap]
  refine List.filterMap_congr fun t _ => ?_
  obtain ⟨d, e, executed | error⟩ := t <;> rfl

theorem executedOf_asRead (turns : List (Dependency × Turn)) :
    executedOf (turns.map fun t => (t.1, t.2.asRead)) = executedOf turns := by
  unfold executedOf
  rw [List.flatMap_map]
  refine List.flatMap_congr fun t _ => ?_
  obtain ⟨d, e, executed | error⟩ := t <;> rfl

theorem errorsOf_asRead (turns : List (Dependency × Turn)) :
    errorsOf (turns.map fun t => (t.1, t.2.asRead)) = errorsOf turns := by
  unfold errorsOf
  rw [List.foldl_map]
  refine List.foldl_ext _ _ _ fun errors t _ => ?_
  obtain ⟨d, e, executed | error⟩ := t <;> rfl

theorem cancelledOf_asRead (turns : List (Dependency × Turn)) :
    cancelledOf (turns.map fun t => (t.1, t.2.asRead)) = cancelledOf turns := by
  unfold cancelledOf
  rw [List.countP_map]
  refine congrArg (List.countP · turns) (funext fun t => ?_)
  obtain ⟨d, e, executed | error⟩ := t <;> rfl

theorem kept_evaluationsOf (h : ∀ t ∈ turns, t.2.Kept) : ∀ e ∈ evaluationsOf turns, e.Kept := by
  intro e he
  obtain ⟨t, ht, executed, heq⟩ := mem_evaluationsOf.mp he
  have hkept := h t ht
  rw [heq] at hkept
  exact hkept.1

theorem kept_executedOf (h : ∀ t ∈ turns, t.2.Kept) : ∀ a ∈ executedOf turns, a.Kept := by
  intro a ha
  obtain ⟨⟨d, t⟩, ht, ha⟩ := List.mem_flatMap.mp ha
  cases t with
  | evaluated e executed => exact (h _ ht).2 a ha
  | skipped error => cases ha
  | cancelled => cases ha

theorem storable_errorsOf (turns : List (Dependency × Turn)) : (Value.map (errorsOf turns)).Storable := by
  refine List.foldlRecOn (motive := fun errors => (Value.map errors).Storable) turns _ (by simp [Value.storable_map])
    fun errors h t _ => ?_
  obtain ⟨d, t⟩ := t
  cases t with
  | evaluated e executed => exact h
  | skipped error => exact Value.storable_insert h _ (.str error)
  | cancelled => exact h

end Turns

/-! ## Runs -/

section Runs

variable {others : Collaborators} {c : EvaluationContext} {d : Dependency} {policies : List Policy} {evaluationId tenantId : Value}
  {stop : Nat → List (String × Payload) → Bool} {before : Nat}

theorem agree_evaluateAndAct (hothers : others.Storable) (hd : d.Documented ∧ d.toDoc.Storable) (hc : c.Storable)
    (hp : ∀ p ∈ policies, p.Kept) :
    Agree (fun t t' => t' = t.asRead ∧ t.Kept) (evaluateAndAct others policies c d)
      (evaluateAndAct others (policies.map Policy.asRead) c d) := by
  unfold evaluateAndAct
  refine (agree_evaluateDependency hd hc hp).bind fun e e' h => ?_
  obtain ⟨rfl, he⟩ := h
  have hfindings : e.asRead.findings = e.findings.map Violation.asRead := (List.map_append ..).symm
  have hkept : ∀ v ∈ e.findings, v.Kept := List.forall_mem_append.mpr ⟨he.violations, he.warnings⟩
  rw [hfindings]
  refine (Agree.mapM_both (F := fun executed => ∀ a ∈ executed, a.Kept) (forall₂_graph.mpr ⟨rfl, hkept⟩)
    fun v v' h => ?_).bind fun executed executed' h => .pure ?_
  · obtain ⟨rfl, hv⟩ := h
    exact agree_execute hothers hv
  · obtain ⟨rfl, hexecuted⟩ := h
    refine ⟨rfl, { he with actionsExecuted := .int _ }, fun a ha => ?_⟩
    obtain ⟨l, hl, ha⟩ := List.mem_flatten.mp ha
    exact hexecuted l hl a ha

theorem agree_skip (f : Fault) :
    Agree (fun t t' => t' = t.asRead ∧ t.Kept) (skip evaluationId tenantId d f) (skip evaluationId tenantId d f) :=
  (agree_logValues _).bind fun _ _ _ => (agree_publish rfl).bind fun _ _ _ => .pure ⟨rfl, trivial⟩

theorem agree_turn (hothers : others.Storable) (hd : d.Documented ∧ d.toDoc.Storable) (hc : c.Storable)
    (hp : ∀ p ∈ policies, p.Kept) (n : Nat) :
    Agree TurnReads (turn others evaluationId tenantId policies c (.told stop) before (d, n))
      (turn others evaluationId tenantId (policies.map Policy.asRead) c (.told stop) before (d, n)) := by
  rw [turn_eq, turn_eq]
  refine Agree.get.bind fun s t hst => ?_
  have hstop : Cancellation.told stop n (t.events.drop before) = Cancellation.told stop n (s.events.drop before) := by
    unfold Cancellation.told
    rw [List.map_drop, List.map_drop, hst.events]
  rw [hstop]
  split
  · exact .pure ⟨rfl, trivial⟩
  · refine Agree.bind (.tryCatch (agree_evaluateAndAct hothers hd hc hp) agree_skip) fun ending ending' h => .pure ?_
    exact ⟨congrArg (Prod.mk d) h.1, h.2⟩

/-- The policies that take effect in a run. -/
theorem agree_active (hp : ∀ p ∈ policies, p.Kept) :
    Agree ReadsAll (ofReading (Policy.active (policies.filter (·.tenantId.same tenantId))))
      (ofReading (Policy.active ((policies.map Policy.asRead).filter (·.tenantId.same tenantId)))) := by
  rw [List.filter_map, active_asRead]
  refine .ofReading_map fun active hactive => ⟨rfl, fun p hmem => hp p ?_⟩
  exact List.mem_of_mem_filter (List.mem_of_mem_filter ((Policy.active_perm hactive).mem_iff.mp hmem))

/-- The result of turns, and of the turns as documents give them. -/
theorem agree_conclude {turns : List (Dependency × Turn)} (hturns : ∀ t ∈ turns, t.2.Kept) (hid : evaluationId.IsText)
    (htenant : tenantId.IsText) {start : Timestamp} (hstart : start.Fixed) (ds : List Dependency) :
    Agree Reads (conclude evaluationId tenantId policies start ds turns)
      (conclude evaluationId tenantId (policies.map Policy.asRead) start ds (turns.map fun t => (t.1, t.2.asRead))) := by
  unfold conclude
  dsimp only
  rw [evaluationsOf_asRead, executedOf_asRead, errorsOf_asRead, cancelledOf_asRead, summarize_asRead]
  refine agree_clock.bind fun finish finish' h => ?_
  obtain ⟨rfl, hfinish⟩ := h
  have hevaluations := kept_evaluationsOf hturns
  refine (Agree.ofReading fun summary => kept_summarize hevaluations).bind fun summary summary' h => ?_
  obtain ⟨rfl, hsummary⟩ := h
  have hcount (status : EvaluationStatus) : countStatus status ((evaluationsOf turns).map Evaluation.asRead) =
      countStatus status (evaluationsOf turns) := by
    rw [countStatus, countStatus, List.countP_map]
    rfl
  rw [hcount, hcount, hcount, List.length_map]
  have hreads {r r' : EnforcementResult} (h : Reads r r') :
      Agree Reads (do keep .evaluations r; return r) (do keep .evaluations r'; return r') :=
    (agree_keep twinned_evaluations h.2 (h.1 ▸ Mirrored.same_asRead r)).bind fun _ _ _ => .pure h
  refine hreads ⟨rfl, {
    evaluationId := hid
    tenantId := htenant
    counts := by simp [countStatus]
    evaluations := hevaluations
    executedActions := kept_executedOf hturns
    summary := ⟨hsummary.documented, hsummary.storable⟩
    startTime := fun t ht => Option.some.inj ht ▸ hstart
    endTime := fun t ht => Option.some.inj ht ▸ hfinish
    errors := storable_errorsOf turns }⟩

theorem agree_runTurns (hothers : others.Storable) {ds : List Dependency} (hds : ∀ d ∈ ds, d.Documented ∧ d.toDoc.Storable)
    (hc : c.Storable) (hp : ∀ p ∈ policies, p.Kept) (hid : evaluationId.IsText) (htenant : tenantId.IsText) {start : Timestamp}
    (hstart : start.Fixed) :
    Agree Reads (runTurns others evaluationId tenantId policies c (.told stop) before start ds)
      (runTurns others evaluationId tenantId (policies.map Policy.asRead) c (.told stop) before start ds) := by
  unfold runTurns
  refine (agree_active hp).bind fun active active' h => ?_
  obtain ⟨rfl, hactive⟩ := h
  have hplaces : List.Forall₂ (Both fun dn : Dependency × Nat => dn.1 ∈ ds) ds.zipIdx ds.zipIdx :=
    List.forall₂_same.mpr fun dn hdn => ⟨rfl, List.fst_mem_of_mem_zipIdx hdn⟩
  refine (Agree.takeAll (S := TurnReads) hplaces fun dn dn' h => ?_).bind fun turns turns' h => ?_
  · obtain ⟨rfl, hmem⟩ := h
    exact agree_turn hothers (hds _ hmem) hc hactive _
  obtain ⟨rfl, hturns⟩ := forall₂_graph.mp h
  exact agree_conclude hturns hid htenant hstart ds

/-- **A run** over a batch agrees with the run against what the documents of the policies give. -/
theorem agree_evaluateAll (hothers : others.Storable) {ds : List Dependency} (hds : ∀ d ∈ ds, d.Documented ∧ d.toDoc.Storable)
    (hc : c.Storable) (hp : ∀ p ∈ policies, p.Kept) (htenant : tenantId.IsText) :
    Agree Reads (evaluateAll others ds tenantId policies c (.told stop))
      (evaluateAll others ds tenantId (policies.map Policy.asRead) c (.told stop)) := by
  rw [evaluateAll_eq, evaluateAll_eq]
  refine (agree_fresh .evaluation).bind fun evaluationId evaluationId' h => ?_
  obtain ⟨rfl, hid⟩ := h
  refine Agree.get.bind fun s t hst => ?_
  have hbefore : t.events.length = s.events.length := by simpa using congrArg List.length hst.events
  rw [hst.now, hbefore]
  refine (agree_publish rfl).bind fun _ _ _ => ?_
  refine Agree.bind (.tryCatch (agree_runTurns hothers hds hc hp hid htenant hst.fixed) fun f => ?_) fun r r' h => ?_
  · exact (agree_publish rfl).bind fun _ _ _ => .throw
  · refine Agree.bind (agree_publish ?_) fun _ _ _ => .pure h
    obtain ⟨rfl, -⟩ := h
    rfl

end Runs

end Gate

end SupplyGate
