import Mathlib.Algebra.BigOperators.Group.List.Basic
import SupplyGate.Proofs.Gate.Endings
import SupplyGate.Proofs.Gate.Fixes
import SupplyGate.Proofs.Gate.Summary
import SupplyGate.Proofs.Sample

/-!
# The totals of a run

What a run found is totalled in several ways: by the verdicts on its dependencies, by the rules that the
findings carry, by the tables of the summary, and by the actions that were executed. A finding carries the
rule that it is of, whether it is new or was on record before (`detect_rule`), so a dependency is blocked
just when its evaluation has a violation; each step of a tally of findings adds one to each table
(`AddsUp.countUnder`); and for each deed of an evaluation one action is executed. So the totals of a result
agree with each other and with the rules that triggered (`evaluateAll_totals`).
-/

namespace SupplyGate

/-! ## Sums of counts -/

theorem Value.sum_ints (ns : List Int) : Value.sum (ns.map .int) = .ok (.int ns.sum) := by
  have hfold : ∀ (ns : List Int) (n : Int),
      (ns.map Value.int).foldlM Value.add (.int n) = .ok (.int (n + ns.sum)) := by
    intro ns
    induction ns with
    | nil => exact fun n => by simp [pure, Except.pure]
    | cons m ns ih =>
      intro n
      rw [List.map_cons, List.foldlM_cons, List.sum_cons, ← Int.add_assoc]
      exact ih (n + m)
  rw [Value.sum, hfold, Int.zero_add]

theorem Value.sum_counts {α : Type} (count : α → Nat) (as : List α) :
    Value.sum (as.map fun a => .int (count a)) = .ok (.int (as.map count).sum) := by
  have hcounts : (as.map fun a => Value.int (count a)) = (as.map fun a => (count a : Int)).map .int := by
    rw [List.map_map]
    rfl
  have hsum : (as.map fun a => (count a : Int)).sum = (as.map count).sum := by
    induction as with
    | nil => rfl
    | cons a as ih => simp [ih]
  rw [hcounts, sum_ints, hsum]

/-- The counts of a table are whole numbers that add up to this one. -/
def AddsUp (counts : List (Scalar × Value)) (total : Int) : Prop :=
  ∃ ns : List Int, counts.map (·.2) = ns.map .int ∧ ns.sum = total

namespace AddsUp

theorem sum {counts : List (Scalar × Value)} {total : Int} (h : AddsUp counts total) :
    Value.sum (counts.map (·.2)) = .ok (.int total) := by
  obtain ⟨ns, hns, rfl⟩ := h
  rw [hns, Value.sum_ints]

/-- With one more under some key, the counts add up to one more. -/
theorem insert {key : Scalar} : ∀ {counts : List (Scalar × Value)} {total n : Int}, AddsUp counts total →
    (findEntry key counts).getD (.int 0) = .int n → AddsUp (Value.insert key (.int (n + 1)) counts) (total + 1)
  | [], total, n, h, hn => by
    obtain ⟨ns, hns, rfl⟩ := h
    obtain rfl : ns = [] := by simpa using hns.symm
    obtain rfl : 0 = n := by simpa [findEntry] using hn
    exact ⟨[1], rfl, rfl⟩
  | (k, w) :: counts, total, n, h, hn => by
    obtain ⟨ns, hns, rfl⟩ := h
    obtain ⟨m, ms, rfl, hw, hms⟩ := List.map_eq_cons_iff.mp hns.symm
    unfold findEntry at hn
    unfold Value.insert
    by_cases hk : k.same key = true
    · rw [if_pos hk] at hn ⊢
      obtain rfl : m = n := by
        have hmn : Value.int m = .int n := hw.trans hn
        simpa using hmn
      refine ⟨(m + 1) :: ms, by simp [hms], ?_⟩
      rw [List.sum_cons, List.sum_cons]
      omega
    · rw [if_neg hk] at hn ⊢
      obtain ⟨ns', hns', hsum⟩ := insert ⟨ms, hms.symm, rfl⟩ hn
      refine ⟨m :: ns', by simp [hns', hw], ?_⟩
      rw [List.sum_cons, List.sum_cons, hsum]
      omega

theorem countUnder {key : Scalar} {counts counts' : List (Scalar × Value)} {total : Int} (h : AddsUp counts total)
    (hc : Gate.countUnder key counts = .ok counts') : AddsUp counts' (total + 1) := by
  obtain ⟨count, hcount, hc⟩ := Reading.bind_eq_ok.mp hc
  obtain rfl := Reading.pure_eq_ok.mp hc
  have hcounting : Counting counts := by
    obtain ⟨ns, hns, -⟩ := h
    intro e he
    have hmem : e.2 ∈ counts.map (·.2) := List.mem_map_of_mem he
    rw [hns] at hmem
    obtain ⟨n, -, hn⟩ := List.mem_map.mp hmem
    exact ⟨n, hn.symm⟩
  obtain ⟨n, hn⟩ := Gate.getD_findEntry key hcounting
  rw [hn] at hcount
  obtain rfl : Value.int (n + 1) = count := Except.ok.inj hcount
  exact h.insert hn

end AddsUp

/-! ## The totals of a result -/

/-- The action was executed for the violation, and is of the type, of this deed. -/
def ExecutedAction.Does (deed : Violation × RuleAction) (x : ExecutedAction) : Prop :=
  x.violationId = deed.1.id ∧ x.type = .str deed.2.type

/-- The totals of a result agree with each other. As many dependencies are blocked as are violating and as
have a violation, and the result is blocked if some evaluation is a violation. Both tables of the summary and
the rules that triggered add up to the violations and warnings. The executed actions are as many as the
evaluations say together, and one for each deed of the evaluations, in order. -/
structure EnforcementResult.Agrees (r : EnforcementResult) : Prop where
  blockedDependencies : r.summary.blockedDependencies = .int (r.evaluations.countP fun e => !e.violations.isEmpty)
  violating : r.violating = r.summary.blockedDependencies
  isBlocked : r.isBlocked = .ok (r.evaluations.any (·.status == .violation))
  severities : Value.sum (r.summary.severityBreakdown.map (·.2)) =
    .ok (.int (r.evaluations.flatMap Evaluation.findings).length)
  policies : Value.sum (r.summary.policyBreakdown.map (·.2)) =
    .ok (.int (r.evaluations.flatMap Evaluation.findings).length)
  triggered : Value.sum (r.evaluations.map (·.rulesTriggered)) =
    .ok (.int (r.evaluations.flatMap Evaluation.findings).length)
  actionsExecuted : r.summary.actionsExecuted = .int r.executedActions.length
  executed : Value.sum (r.evaluations.map (·.actionsExecuted)) = .ok (.int r.executedActions.length)
  deeds : List.Forall₂ ExecutedAction.Does (r.evaluations.flatMap Evaluation.deeds) r.executedActions

/-- The dependency triggers these rules of some policies, those that block before those that only warn: the
enabled ones of the policies that take effect and are in scope, which no exception sets aside and whose
conditions hold. -/
def Dependency.Triggers (d : Dependency) (policies : List Policy) (c : EvaluationContext) (now : Timestamp)
    (triggered : List Rule) : Prop :=
  ∃ (data : EvaluationData) (order : List Policy), EvaluationData.of d c now = .ok data ∧
    order.Perm (policies.filter Policy.takesEffect) ∧
    let rules := enabledRules (order.filter (·.inScope d c))
    triggered = (blockingRules d data now rules ++ warningRules d data now rules).map (·.2)

namespace Gate

/-! ### Summaries -/

/-- One more finding is one more in both tables, and all else stays. -/
theorem addToSummary_addsUp {s s' : EnforcementSummary} {v : Violation} {m n : Int} (hm : AddsUp s.severityBreakdown m)
    (hn : AddsUp s.policyBreakdown n) (h : addToSummary s v = .ok s') :
    AddsUp s'.severityBreakdown (m + 1) ∧ AddsUp s'.policyBreakdown (n + 1) ∧
      s'.blockedDependencies = s.blockedDependencies ∧ s'.actionsExecuted = s.actionsExecuted := by
  obtain ⟨severity, -, h⟩ := Reading.bind_eq_ok.mp h
  obtain ⟨severities, hseverities, h⟩ := Reading.bind_eq_ok.mp h
  obtain ⟨policyId, -, h⟩ := Reading.bind_eq_ok.mp h
  obtain ⟨policies, hpolicies, h⟩ := Reading.bind_eq_ok.mp h
  obtain rfl := Reading.pure_eq_ok.mp h
  exact ⟨hm.countUnder hseverities, hn.countUnder hpolicies, rfl, rfl⟩

theorem foldlM_addToSummary : ∀ {vs : List Violation} {s s' : EnforcementSummary} {m n : Int},
    AddsUp s.severityBreakdown m → AddsUp s.policyBreakdown n → vs.foldlM addToSummary s = .ok s' →
    AddsUp s'.severityBreakdown (m + vs.length) ∧ AddsUp s'.policyBreakdown (n + vs.length) ∧
      s'.blockedDependencies = s.blockedDependencies ∧ s'.actionsExecuted = s.actionsExecuted
  | [], s, s', m, n, hm, hn, h => by
    obtain rfl := Reading.pure_eq_ok.mp h
    simpa using ⟨hm, hn⟩
  | v :: vs, s, s', m, n, hm, hn, h => by
    rw [List.foldlM_cons] at h
    obtain ⟨t, hadd, hfold⟩ := Reading.bind_eq_ok.mp h
    obtain ⟨hm', hn', hblocked, hactions⟩ := addToSummary_addsUp hm hn hadd
    obtain ⟨hm'', hn'', hblocked', hactions'⟩ := foldlM_addToSummary hm' hn' hfold
    rw [List.length_cons, Int.natCast_add, Int.add_comm vs.length, ← Int.add_assoc, ← Int.add_assoc]
    exact ⟨hm'', hn'', hblocked'.trans hblocked, hactions'.trans hactions⟩

theorem addsUp_noSeverities : AddsUp EnforcementSummary.noSeverities 0 := ⟨[0, 0, 0, 0, 0], rfl, rfl⟩

/-- Both tables of a summary add up to the number of findings. -/
theorem summarize_addsUp {policies : List Policy} {evaluations : List Evaluation} {executed : List ExecutedAction}
    {summary : EnforcementSummary} (h : summarize policies evaluations executed = .ok summary) :
    AddsUp summary.severityBreakdown (evaluations.flatMap Evaluation.findings).length ∧
      AddsUp summary.policyBreakdown (evaluations.flatMap Evaluation.findings).length ∧
      summary.blockedDependencies = .int (evaluations.countP Evaluation.isBlocked) ∧
      summary.actionsExecuted = .int executed.length := by
  obtain ⟨total, -, h⟩ := Reading.bind_eq_ok.mp h
  have hfold := foldlM_addToSummary addsUp_noSeverities (n := 0) ⟨[], rfl, rfl⟩ h
  rwa [Int.zero_add] at hfold

/-! ### Evaluations -/

section Evaluations

variable {d : Dependency} {data : EvaluationData} {now : Timestamp} {taken : List Policy} {e : Evaluation}

/-- The findings of an evaluation carry the rules that triggered, so it is blocked if it has a violation. -/
theorem isBlocked_of_reports (h : Reports (fun pr v => v.details.rule = pr.2) d data now taken e) :
    e.isBlocked = !e.violations.isEmpty := by
  have hblocking : ∀ v ∈ e.violations, v.isBlocking = true := by
    intro v hv
    obtain ⟨pr, hpr, hrule⟩ := exists_of_forall₂ h.violations v hv
    obtain ⟨-, hfires⟩ := List.mem_filter.mp hpr
    rw [Violation.isBlocking, hrule]
    exact (Bool.and_eq_true_iff.mp hfires).2
  unfold Evaluation.isBlocked
  cases hviolations : e.violations with
  | nil => rfl
  | cons v vs =>
    rw [hviolations] at hblocking
    simp [hblocking v List.mem_cons_self]

theorem status_of_reports {R : Policy × Rule → Violation → Prop} (h : Reports R d data now taken e) :
    (e.status == .violation) = !e.violations.isEmpty := by
  rw [h.status, EvaluationStatus.ofFindings]
  split_ifs <;> simp_all

theorem findings_of_reports (h : Reports (fun pr v => v.details.rule = pr.2) d data now taken e) :
    e.findings.map (·.details.rule) =
      (blockingRules d data now (enabledRules taken) ++ warningRules d data now (enabledRules taken)).map (·.2) := by
  have hfindings := List.rel_append h.violations h.warnings
  rw [← List.forall₂_eq_eq_eq, List.forall₂_map_left_iff, List.forall₂_map_right_iff]
  exact hfindings.flip

end Evaluations

/-! ### Turns -/

section Turns

variable {others : Collaborators} {c : EvaluationContext} {policies active : List Policy} {d : Dependency}
  {evaluationId tenantId : Value} {cancel : Cancellation} {before : Nat} {now : Timestamp}

/-- The evaluation of a dependency is by the rules that it triggers: it counts them, and tells by its status and
by the rules of its findings whether one of them blocks. -/
structure Tallied (policies : List Policy) (c : EvaluationContext) (now : Timestamp) (d : Dependency)
    (e : Evaluation) : Prop where
  triggers : d.Triggers policies c now (e.findings.map (·.details.rule))
  rulesTriggered : e.rulesTriggered = .int e.findings.length
  isBlocked : e.isBlocked = !e.violations.isEmpty
  status : (e.status == .violation) = !e.violations.isEmpty

/-- The evaluation counts the executed actions, which are those that were to be done about its findings. -/
structure Performed (e : Evaluation) (executed : List ExecutedAction) : Prop where
  actionsExecuted : e.actionsExecuted = .int executed.length
  deeds : List.Forall₂ ExecutedAction.Does e.deeds executed

/-- A run does not move its clock. -/
theorem timed_runLaw (c : EvaluationContext) (now : Timestamp) : RunLaw fun s => evaluationTime c s = now where
  recorded _ _ _ hs _ := hs
  numbered _ _ hs := hs
  published _ _ hs := hs
  called _ _ hs := hs

theorem yields_runAction {I : GateState → Prop} (L : RunLaw I) (v : Violation) (a : RuleAction) :
    Yields I (runAction others v c a) (ExecutedAction.Does (v, a)) := by
  have hperform : Keeps I (perform others v c a) :=
    keeps_perform (fun e _ => L.keeps_publish e) L.keeps_noteCall a
  refine Yields.tryCatch ?_ fun f => ?_
  · exact Yields.bind hperform fun result _ => Yields.bind keeps_clock fun t _ => .pure ⟨rfl, rfl⟩
  · exact Yields.bind keeps_clock fun t _ => .pure ⟨rfl, rfl⟩

theorem yields_execute_deeds {I : GateState → Prop} (L : RunLaw I) (v : Violation) :
    Yields I (execute others c v) fun executed =>
      List.Forall₂ ExecutedAction.Does (v.details.rule.enabledActions.map (v, ·)) executed := by
  have hactions : Yields I (execute others c v) (List.Forall₂ (fun a => ExecutedAction.Does (v, a)) _) :=
    .mapM fun a _ => yields_runAction L v a
  refine hactions.mono fun executed h => ?_
  rwa [List.forall₂_map_left_iff]

/-- Policies that were put in order take effect, whatever order they are put in then. -/
theorem perm_active {order : List Policy} (hactive : Policy.active policies = .ok active)
    (horder : Policy.active active = .ok order) : order.Perm (policies.filter Policy.takesEffect) := by
  have hperm := Policy.active_perm hactive
  have hall : active.filter Policy.takesEffect = active :=
    List.filter_eq_self.mpr fun p hp => (List.mem_filter.mp (hperm.mem_iff.mp hp)).2
  have hagain := Policy.active_perm horder
  rw [hall] at hagain
  exact hagain.trans hperm

/-- What a step yields from every state it yields beside what it keeps. -/
theorem Keeps.yields {α : Type} {I : GateState → Prop} {x : Gate α} {F : α → Prop} (hk : Keeps I x)
    (hy : Yields (fun _ => True) x F) : Yields I x F :=
  fun s hs => ⟨(hk s hs).1, (hy s trivial).2⟩

theorem yields_evaluateDependency_tallied (hactive : Policy.active policies = .ok active) :
    Yields (fun s => evaluationTime c s = now) (evaluateDependency d active c) (Tallied policies c now d) := by
  have hdetect : ∀ p ∈ active, ∀ r ∈ p.rules, ∀ outcome time,
      Yields (fun s => evaluationTime c s = now) (detect p r d outcome c time) fun v => v.details.rule = r :=
    fun p _ r _ outcome time =>
      Keeps.yields (keeps_detect_of (fun _ _ => id) (fun _ _ => id) fun _ _ => id) (detect_rule p r d outcome c)
  intro s hs
  refine ⟨(keeps_evaluateDependency fun p hp r hr o time => (hdetect p hp r hr o time).keeps).keeps s hs |>.1,
    fun e he => ?_⟩
  have hreturns : Returns (evaluateDependency d active c) s e (outcome (evaluateDependency d active c) s).2 :=
    Prod.ext he rfl
  obtain ⟨-, data, order, hdata, horder, hR⟩ := evaluateDependency_reports
    (R := fun pr v => v.details.rule = pr.2) (fun p hp r hr o => hdetect p hp r hr o _) hs hreturns
  rw [hs] at hdata hR
  refine ⟨⟨data, order, hdata, perm_active hactive horder, findings_of_reports hR⟩, ?_, isBlocked_of_reports hR,
    status_of_reports hR⟩
  rw [hR.rulesTriggered, Evaluation.findings, List.length_append]
  rfl

theorem yields_evaluateAndAct_performed (hactive : Policy.active policies = .ok active) :
    Yields (fun s => evaluationTime c s = now) (evaluateAndAct others active c d) fun t =>
      ∀ e executed, t = .evaluated e executed → Tallied policies c now d e ∧ Performed e executed := by
  refine (yields_evaluateDependency_tallied hactive).bind fun e he => ?_
  refine (Yields.mapM fun v _ => yields_execute_deeds (timed_runLaw c now) v).bind fun executed hexecuted => .pure ?_
  rintro _ _ ⟨⟩
  refine ⟨⟨he.triggers, he.rulesTriggered, he.isBlocked, he.status⟩, rfl, ?_⟩
  exact forall₂_flatten hexecuted

/-- The turn of a dependency: if it was evaluated, by the rules that it triggers, and with their actions. -/
def Turned (policies : List Policy) (c : EvaluationContext) (now : Timestamp) (d : Dependency)
    (t : Dependency × Turn) : Prop :=
  ∀ e executed, t.2 = .evaluated e executed → Tallied policies c now d e ∧ Performed e executed

theorem yields_turn_turned (hactive : Policy.active policies = .ok active) (dn : Dependency × Nat) :
    Yields (fun s => evaluationTime c s = now) (turn others evaluationId tenantId active c cancel before dn)
      (Turned policies c now dn.1) := by
  refine Yields.bind keeps_get fun s _ => ?_
  split
  · exact .pure fun _ _ h => nomatch h
  · refine Yields.bind (Yields.tryCatch (yields_evaluateAndAct_performed hactive) fun f => ?_) fun t ht => .pure ht
    refine Yields.bind keeps_ofReading fun _ _ => ?_
    exact Yields.bind ((timed_runLaw c now).keeps_publish _) fun _ _ => .pure fun _ _ h => nomatch h

/-- The evaluations of a run are of some of its dependencies, in order, and what was executed is what was to be
done about their findings, in order. -/
theorem exists_tallied : ∀ {l : List (Dependency × Nat)} {turns : List (Dependency × Turn)},
    List.Forall₂ (fun dn t => Turned policies c now dn.1 t) l turns →
    ∃ (judged : List Dependency) (executed : List (List ExecutedAction)), judged.Sublist (l.map (·.1)) ∧
      List.Forall₂ (Tallied policies c now) judged (evaluationsOf turns) ∧
      List.Forall₂ Performed (evaluationsOf turns) executed ∧ executedOf turns = executed.flatten
  | [], _, .nil => ⟨[], [], .slnil, .nil, .nil, rfl⟩
  | (d, n) :: l, (d', .evaluated e executed) :: turns, .cons ht hturns => by
    obtain ⟨judged, rest, hsub, htallied, hperformed, hexecuted⟩ := exists_tallied hturns
    obtain ⟨hj, hp⟩ := ht e executed rfl
    refine ⟨d :: judged, executed :: rest, hsub.cons_cons d, .cons hj htallied, .cons hp hperformed, ?_⟩
    rw [List.flatten_cons, ← hexecuted]
    rfl
  | (d, n) :: l, (d', .skipped error) :: turns, .cons ht hturns => by
    obtain ⟨judged, executed, hsub, hrest⟩ := exists_tallied hturns
    exact ⟨judged, executed, hsub.cons d, hrest⟩
  | (d, n) :: l, (d', .cancelled) :: turns, .cons ht hturns => by
    obtain ⟨judged, executed, hsub, hrest⟩ := exists_tallied hturns
    exact ⟨judged, executed, hsub.cons d, hrest⟩

end Turns

/-! ### Runs -/

section Runs

variable {others : Collaborators} {c : EvaluationContext} {policies : List Policy} {ds : List Dependency}
  {tenantId : Value} {cancel : Cancellation} {now : Timestamp} {s s' : GateState} {r : EnforcementResult}

/-- The dependencies of which a result has the evaluations, and what was executed for each of them. -/
structure Made (policies : List Policy) (c : EvaluationContext) (now : Timestamp) (ds : List Dependency)
    (r : EnforcementResult) (judged : List Dependency) (executed : List (List ExecutedAction)) : Prop where
  judged_sublist : judged.Sublist ds
  tallied : List.Forall₂ (Tallied policies c now) judged r.evaluations
  performed : List.Forall₂ Performed r.evaluations executed
  executed : r.executedActions = executed.flatten
  violating : r.violating = countStatus .violation r.evaluations
  summary : ∃ active, summarize active r.evaluations r.executedActions = .ok r.summary

theorem yields_runTurns_made {evaluationId : Value} {before : Nat} {start : Timestamp} :
    Yields (fun s => evaluationTime c s = now)
      (runTurns others evaluationId tenantId policies c cancel before start ds) fun r =>
        ∃ judged executed, Made (policies.filter (·.tenantId.same tenantId)) c now ds r judged executed := by
  refine Yields.bind (.ofReading fun _ => id) fun active hactive => ?_
  refine Yields.bind (Yields.takeAll fun dn _ => yields_turn_turned hactive dn) fun turns hturns => ?_
  refine Yields.bind keeps_clock fun finish _ => ?_
  refine Yields.bind (.ofReading fun _ => id) fun summary hsummary => ?_
  refine Yields.bind ((timed_runLaw c now).keeps_keepResult _) fun _ _ => .pure ?_
  obtain ⟨judged, executed, hsub, htallied, hperformed, hexecuted⟩ := exists_tallied hturns
  rw [List.zipIdx_map_fst] at hsub
  exact ⟨judged, executed, hsub, htallied, hperformed, hexecuted, rfl, active, hsummary⟩

variable {judged : List Dependency} {executed : List (List ExecutedAction)}

theorem greater_zero (n : Nat) : (Value.int n).greater (.int 0) = .ok (decide (0 < n)) := by
  have hless : Value.less? (.int 0) (.int n) = some (decide ((0 : Rat) < (n : Int))) := rfl
  have hcast : (0 : Rat) < (n : Int) ↔ 0 < n := (Rat.intCast_lt_intCast (a := 0)).trans Int.natCast_pos
  rw [Value.greater, hless, decide_eq_decide.mpr hcast]
  rfl

/-- What a result is made of agrees. -/
theorem Made.agrees (h : Made policies c now ds r judged executed) : r.Agrees := by
  obtain ⟨active, hsummary⟩ := h.summary
  obtain ⟨hseverities, hpolicies, hblocked, hactions⟩ := summarize_addsUp hsummary
  have htallied : ∀ e ∈ r.evaluations, ∃ d, Tallied policies c now d e := by
    intro e he
    obtain ⟨d, -, hd⟩ := exists_of_forall₂ h.tallied e he
    exact ⟨d, hd⟩
  have hviolations : r.summary.blockedDependencies = .int (r.evaluations.countP fun e => !e.violations.isEmpty) := by
    rw [hblocked]
    congr 2
    refine List.countP_congr fun e he => ?_
    obtain ⟨d, hd⟩ := htallied e he
    rw [hd.isBlocked]
  have hstatus : r.summary.blockedDependencies = .int (r.evaluations.countP (·.status == .violation)) := by
    rw [hviolations]
    congr 2
    refine List.countP_congr fun e he => ?_
    obtain ⟨d, hd⟩ := htallied e he
    rw [hd.status]
  refine ⟨hviolations, ?_, ?_, hseverities.sum, hpolicies.sum, ?_, hactions, ?_, ?_⟩
  · rw [hstatus, h.violating]
    rfl
  · rw [EnforcementResult.isBlocked, hstatus, greater_zero]
    congr 1
    rw [Bool.eq_iff_iff, decide_eq_true_iff, List.countP_pos_iff, List.any_eq_true]
  · have hrules : r.evaluations.map (·.rulesTriggered) = r.evaluations.map fun e => .int e.findings.length := by
      refine List.map_congr_left fun e he => ?_
      obtain ⟨d, hd⟩ := htallied e he
      exact hd.rulesTriggered
    rw [hrules, Value.sum_counts fun e : Evaluation => e.findings.length, List.length_flatMap]
  · have hcounts : r.evaluations.map (·.actionsExecuted) = executed.map fun l => .int l.length := by
      rw [← List.forall₂_eq_eq_eq, List.forall₂_map_left_iff, List.forall₂_map_right_iff]
      exact h.performed.imp fun _ _ hp => hp.actionsExecuted
    rw [hcounts, Value.sum_counts List.length, h.executed, List.length_flatten]
  · rw [h.executed]
    exact forall₂_flatten (h.performed.imp fun _ _ hp => hp.deeds)

/-- As many actions are executed as are enabled for the rules that the dependencies trigger. -/
theorem Made.length_executed (h : Made policies c now ds r judged executed) :
    r.executedActions.length =
      ((r.evaluations.flatMap fun e => e.findings.map (·.details.rule)).map (·.enabledActions.length)).sum := by
  have hdeeds : r.evaluations.flatMap Evaluation.deeds =
      (r.evaluations.flatMap Evaluation.findings).flatMap fun v => v.details.rule.enabledActions.map (v, ·) :=
    List.flatMap_assoc.symm
  rw [← h.agrees.deeds.length_eq, hdeeds, List.length_flatMap, ← List.map_flatMap, List.map_map]
  simp only [List.length_map, Function.comp_def]

/-- **The totals of a run agree.** For a run that returns, whatever is on record before it: its totals agree with
each other, its evaluations are of some of its dependencies, in order, the rules of the findings of each of them
are those that the dependency triggers of the policies of the tenant, and as many actions are executed as are
enabled for these rules, each as often as it is triggered. -/
theorem evaluateAll_totals (h : Returns (evaluateAll others ds tenantId policies c cancel) s r s') :
    r.Agrees ∧
    ∃ judged : List (Dependency × List Rule), (judged.map (·.1)).Sublist ds ∧
      (∀ j ∈ judged, j.1.Triggers (policies.filter (·.tenantId.same tenantId)) c (evaluationTime c s) j.2) ∧
      r.evaluations.map (fun e => e.findings.map (·.details.rule)) = judged.map (·.2) ∧
      r.executedActions.length = ((judged.flatMap (·.2)).map (·.enabledActions.length)).sum := by
  have hrun : Yields (fun t => evaluationTime c t = evaluationTime c s)
      (evaluateAll others ds tenantId policies c cancel) _ :=
    (timed_runLaw c _).yields_evaluateAll_of fun _ _ _ => yields_runTurns_made
  obtain ⟨-, judged, executed, hmade⟩ := hrun.returns rfl h
  have htriggers : List.Forall₂ (fun d triggered => d.Triggers (policies.filter (·.tenantId.same tenantId)) c
      (evaluationTime c s) triggered) judged (r.evaluations.map fun e => e.findings.map (·.details.rule)) := by
    rw [List.forall₂_map_right_iff]
    exact hmade.tallied.imp fun _ _ hd => hd.triggers
  obtain ⟨hlength, hzip⟩ := List.forall₂_iff_zip.mp htriggers
  have hrules := List.map_snd_zip hlength.ge
  refine ⟨hmade.agrees, judged.zip (r.evaluations.map fun e => e.findings.map (·.details.rule)), ?_, ?_, ?_, ?_⟩
  · rw [List.map_fst_zip hlength.le]
    exact hmade.judged_sublist
  · exact fun j hj => hzip hj
  · rw [hrules]
  · rw [hmade.length_executed, List.flatMap_def, List.flatMap_def, hrules]

end Runs

section Sample

open Sample

/-- A policy with one rule, which blocks. -/
def barring : Policy :=
  policy "t" "p" [{ rule "r" (absent "x") with actions := [⟨"BLOCK", .empty, .bool true⟩] }] []

/-- One dependency is blocked: one rule is triggered, and its one action is executed. -/
theorem evaluateAll_totals_barred :
    ∃ (r : EnforcementResult) (s' : GateState) (judged : List (Dependency × List Rule)),
      Returns (evaluateAll .none [dependency "lib"] "t" [barring] .empty fun _ _ => false) gate r s' ∧
      r.evaluations.map (·.status) = [.violation] ∧ r.executedActions.length = 1 ∧ r.Agrees ∧
      (judged.map (·.1)).Sublist [dependency "lib"] ∧
      r.evaluations.map (fun e => e.findings.map (·.details.rule)) = judged.map (·.2) ∧
      r.executedActions.length = ((judged.flatMap (·.2)).map (·.enabledActions.length)).sum := by
  have hactive : Policy.active [barring] = .ok [barring] := Policy.active_singleton rfl
  have htenant : [barring].filter (·.tenantId.same "t") = [barring] := rfl
  obtain ⟨r, s', h, hstatus, hone⟩ : ∃ r s',
      Returns (evaluateAll .none [dependency "lib"] "t" [barring] .empty fun _ _ => false) gate r s' ∧
        r.evaluations.map (·.status) = [.violation] ∧ r.executedActions.length = 1 := by
    unfold Returns
    rw [outcome_evaluateAll rfl]
    unfold runTurns
    simp only [htenant, hactive, liftM_eq_ofReading, outcome_bind, outcome_ofReading, outcome_tryCatch,
      List.zipIdx_cons, List.zipIdx_nil]
    exact ⟨_, _, rfl, rfl, rfl⟩
  obtain ⟨hagrees, judged, hsub, -, hrules, hlength⟩ := evaluateAll_totals h
  exact ⟨r, s', judged, h, hstatus, hone, hagrees, hsub, hrules, hlength⟩

end Sample

end Gate

end SupplyGate
