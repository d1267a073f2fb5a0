import SupplyGate.Proofs.Gate.Fixes
import SupplyGate.Proofs.Session.Grades

/-!
# Fixes that a run executes

The fixes of a run are decided on the violations that its findings are filed under. The tenant and the
dependency of such a violation are those of its origin, which an earlier evaluation may have recorded.
So the fixes of a turn are approved as the tenant of the run approves fixes of the dependency of the turn
just when this would not change the decision on the origin of any finding of the turn
(`executed_fixes_iff`).
-/

namespace SupplyGate

open Gate
open MemoryStore (Filing Follows recorded)
open ApprovalRule (FirstToLet)

variable {s : GateState} {c : EvaluationContext} {tenantId : Value} {d : Dependency}

/-- What is reported of a deed, if it is a fix that was carried out: the strategy, and by which approval
rule of the tenant a fix of the dependency may proceed. -/
def ApprovedFor (s : GateState) (c : EvaluationContext) (tenantId : Value) (d : Dependency)
    (deed : Violation × RuleAction) (x : ExecutedAction) : Prop :=
  deed.2.type = ActionType.autoFix.toText → x.status = .success →
    ∃ strategy u o, configuredText deed.2.config.autoFixStrategy "UPDATE" = .ok strategy ∧
      strategyIn s tenantId = .ok u ∧ FirstToLet strategy d c u.approvalRules o ∧
      x.result = fixReport strategy o

/-- If the deed is a fix that can be decided on for the violation, the decision is that of the tenant on
fixes of the dependency. -/
def DecidedFor (s : GateState) (c : EvaluationContext) (tenantId : Value) (d : Dependency)
    (v : Violation) (a : RuleAction) : Prop :=
  a.type = ActionType.autoFix.toText → ∀ strategy o, fixDecision s c a v.tenantId v.dependency = .ok (strategy, o) →
    ∃ u o', strategyIn s tenantId = .ok u ∧ FirstToLet strategy d c u.approvalRules o' ∧
      o.map (·.condition) = o'.map (·.condition)

/-- Tenant and dependency of a violation are on its stamp. -/
theorem DecidedFor.congr {v w : Violation} (h : v.stamp = w.stamp) (a : RuleAction) :
    DecidedFor s c tenantId d v a ↔ DecidedFor s c tenantId d w a := by
  have htenant : v.tenantId = w.tenantId := congrArg Violation.Stamp.tenantId h
  have hdependency : v.dependency = w.dependency := congrArg Violation.Stamp.dependency h
  unfold DecidedFor
  rw [htenant, hdependency]

/-- A violation of the tenant on the dependency, or on one with its id that is for development just if
the dependency is, is decided on as the tenant decides on the dependency. -/
theorem decidedFor_of_same {v : Violation} (htenant : v.tenantId = tenantId) (hid : v.dependency.ident = d.ident)
    (hscope : v.dependency.scope = .development ↔ d.scope = .development) (a : RuleAction) :
    DecidedFor s c tenantId d v a := by
  intro _ strategy o hdecision
  obtain ⟨-, u, hu, hfirst⟩ := fixDecision_ok.mp hdecision
  rw [htenant] at hu
  exact ⟨u, o, hu, (FirstToLet.congr hid hscope).mp (ApprovalRule.firstApproving_ok hfirst), rfl⟩

/-- A fix that was executed as decided on its violation is approved for a dependency just when the
decision is that on the dependency. -/
theorem approvedFor_iff {deed : Violation × RuleAction} {x : ExecutedAction} (hfixed : Fixed s c deed x) :
    ApprovedFor s c tenantId d deed x ↔ DecidedFor s c tenantId d deed.1 deed.2 := by
  constructor
  · intro h ha strategy o hdecision
    have htells := hfixed ha
    rw [hdecision] at htells
    obtain ⟨hstatus, hresult⟩ := htells
    obtain ⟨strategy', u, o', hs, hu, hfirst, hresult'⟩ := h ha hstatus
    obtain rfl : strategy = strategy' := Except.ok.inj ((fixDecision_ok.mp hdecision).1.symm.trans hs)
    exact ⟨u, o', hu, hfirst, fixReport_eq_iff.mp (hresult.symm.trans hresult')⟩
  · intro h ha hstatus
    have htells := hfixed ha
    cases hdecision : fixDecision s c deed.2 deed.1.tenantId deed.1.dependency with
    | error f =>
      rw [hdecision] at htells
      cases hstatus.symm.trans htells.1
    | ok decision =>
      obtain ⟨strategy, o⟩ := decision
      rw [hdecision] at htells
      obtain ⟨u, o', hu, hfirst, hsame⟩ := h ha strategy o hdecision
      refine ⟨strategy, u, o', (fixDecision_ok.mp hdecision).1, hu, hfirst, ?_⟩
      rw [htells.2, fixReport_eq_iff.mpr hsame]

theorem forall₂_approvedFor_iff {deeds : List (Violation × RuleAction)} {executed : List ExecutedAction}
    (hfixed : List.Forall₂ (Fixed s c) deeds executed) :
    List.Forall₂ (ApprovedFor s c tenantId d) deeds executed ↔
      ∀ deed ∈ deeds, DecidedFor s c tenantId d deed.1 deed.2 := by
  induction hfixed with
  | nil => simp
  | cons hx _ ih => rw [List.forall₂_cons, List.forall_mem_cons, approvedFor_iff hx, ih]

/-- The deeds of an evaluation are those of its findings. -/
theorem Evaluation.forall_deeds {e : Evaluation} {P : Violation → RuleAction → Prop} :
    (∀ deed ∈ e.deeds, P deed.1 deed.2) ↔ ∀ v ∈ e.findings, ∀ a ∈ v.details.rule.enabledActions, P v a := by
  constructor
  · intro h v hv a ha
    exact h (v, a) (List.mem_flatMap.mpr ⟨v, hv, List.mem_map_of_mem ha⟩)
  · intro h deed hdeed
    obtain ⟨v, hv, hdeed⟩ := List.mem_flatMap.mp hdeed
    obtain ⟨a, ha, rfl⟩ := List.mem_map.mp hdeed
    exact h v hv a ha

section Turns

variable {now : Timestamp} {m m' : MemoryStore Violation} {vs : List Violation} {events : List Event}

/-- The deeds of an evaluation are decided on as its findings would be on their origins. -/
theorem forall_decidedFor_iff (h : Filing now m vs m' events) (hm : m.Filed) {e : Evaluation} {x : Course}
    (hsub : x.findings ⊆ vs) (he : x.ending (recorded now m') d now = .ok e) :
    (∀ deed ∈ e.deeds, DecidedFor s c tenantId d deed.1 deed.2) ↔
      ∀ f ∈ x.findings, ∀ a ∈ f.details.rule.enabledActions, DecidedFor s c tenantId d (m.origin vs f) a := by
  have hperm := (Course.perm_ending he).2
  have hdecided : ∀ f ∈ x.findings, ∀ a,
      DecidedFor s c tenantId d (recorded now m' f) a ↔ DecidedFor s c tenantId d (m.origin vs f) a :=
    fun f hf a => DecidedFor.congr (h.stamp_recorded hm (.refl m') f (hsub hf)) a
  rw [Evaluation.forall_deeds]
  constructor
  · intro hall f hf a ha
    have hmem : recorded now m' f ∈ e.findings := hperm.mem_iff.mpr (List.mem_map_of_mem hf)
    rw [← MemoryStore.details_recorded now m' f] at ha
    exact (hdecided f hf a).mp (hall _ hmem a ha)
  · intro hall v hv a ha
    obtain ⟨f, hf, rfl⟩ := List.mem_map.mp (hperm.mem_iff.mp hv)
    rw [MemoryStore.details_recorded] at ha
    exact (hdecided f hf a).mpr (hall f hf a ha)

variable {others : Collaborators} {ds : List Dependency} {policies active : List Policy} {cancel : Cancellation}
  {r : EnforcementResult} {turns : List (Dependency × Turn)} {s₁ : GateState}

/-- The fixes of an evaluated turn were executed as they are decided on before the run. -/
theorem Gate.Run.fixed (h : Recording m s) (hrun : Run others ds tenantId policies c cancel s r active turns s₁)
    {e : Evaluation} {executed : List ExecutedAction} (ht : (d, .evaluated e executed) ∈ turns) :
    List.Forall₂ (Fixed s c) e.deeds executed := by
  have hyields : Yields (Deciding s)
      (ds.zipIdx.mapM (turn others (runId s) tenantId active c cancel s.events.length)) _ :=
    .mapM_mem fun dn _ => yields_turn_fixed s dn
  have hbegun : Deciding s (begun s tenantId ds.length) := ⟨h.unlogged, rfl, rfl⟩
  obtain ⟨_, _, hfixed⟩ := (hyields _ hbegun).2 turns (by rw [hrun.taken]) _ ht
  exact hfixed e executed rfl

/-- The findings of an evaluated turn are among those of the plan. -/
theorem Gate.Plan.findings_subset {e : Evaluation} {executed : List ExecutedAction}
    (ht : (d, .evaluated e executed) ∈ turns) :
    (dependencyCourse d c now active).findings ⊆ (Plan.taken active c now turns).findings := by
  have hmem : (d, some (dependencyCourse d c now active)) ∈ Plan.taken active c now turns :=
    List.mem_map.mpr ⟨_, ht, rfl⟩
  exact fun v hv => List.mem_flatMap.mpr ⟨_, hmem, hv⟩

/-- The evaluation of a turn is that of its course, with what is on record after the run. -/
theorem Gate.Went.evaluated (hwent : Went now (.taken active c now turns) m s (.ok turns) m' s₁) {e : Evaluation}
    {executed : List ExecutedAction} (ht : (d, .evaluated e executed) ∈ turns) :
    (dependencyCourse d c now active).ending (recorded now m') d now = .ok e := by
  have hendings := hwent.endings turns rfl m' (.refl m')
  rw [endingsOf, Plan.endings, Plan.taken, List.map_map, List.map_inj_left] at hendings
  have hend := hendings _ ht
  simpa [Turn.ending, eq_comm] using hend

end Turns

/-- **Fixes are approved for the dependency just when the decision on their origins is the same.**
Wherever requests lead, a run over the stored policies of a tenant reports on the fixes of an evaluated
turn what the update strategy of the tenant says for the dependency of the turn, just when it says the
same for the violations that the findings of the turn go back to: those on record under their texts, or
else the first findings of the run with their texts. -/
theorem executed_fixes_iff {allowed : Request → Prop} (h : Reachable allowed s) :
    ∃ m, s.violations = .memory m ∧
      ∀ others ds tenantId c cancel r s', Returns (evaluatePolicies others ds tenantId c cancel) s r s' →
        ∃ ranked active turns s₁, rankedOf s tenantId = .ok ranked ∧
          Run others ds tenantId ranked c cancel s r active turns s₁ ∧
          let found := (Plan.taken active c (evaluationTime c s) turns).findings
          ∀ d e executed, (d, .evaluated e executed) ∈ turns →
            (List.Forall₂ (ApprovedFor s c tenantId d) e.deeds executed ↔
              ∀ f ∈ (dependencyCourse d c (evaluationTime c s) active).findings,
                ∀ a ∈ f.details.rule.enabledActions, DecidedFor s c tenantId d (m.origin found f) a) := by
  obtain ⟨m, hm⟩ := h.recording
  refine ⟨m, hm.violations, ?_⟩
  intro others ds tenantId c cancel r s' hr
  obtain ⟨ranked, active, turns, s₁, hranked, hrun⟩ := evaluatePolicies_run hm.unlogged hr
  obtain ⟨m', hwent⟩ := hrun.went hm
  obtain ⟨events, hf⟩ := hwent.ran.filing
  refine ⟨ranked, active, turns, s₁, hranked, hrun, fun d e executed ht => ?_⟩
  rw [forall₂_approvedFor_iff (hrun.fixed hm ht),
    forall_decidedFor_iff hf hm.filed (Plan.findings_subset ht) (hwent.evaluated ht)]

section Sample

open Sample

/-- A policy whose one rule fires on every dependency, and asks for a fix. -/
def mending : Policy :=
  policy "t" "p" [{ rule "r" (absent "x") with actions := [⟨"AUTO_FIX", .empty, .bool true⟩] }] []

/-- The update strategy of a tenant which lets fixes of dependencies for development proceed, and no other. -/
def trusting : UpdateStrategy := ⟨"t", "BALANCED", [⟨.devDependencies, .int 50, .bool true, []⟩]⟩

/-- A dependency that is for development. -/
def developing : Dependency := { dependency "lib" with scope := .development }

/-- The service after the policy was created and the strategy was set. -/
def armed : GateState :=
  (outcome (Request.setStrategy trusting).run (outcome (Request.createPolicy "t" (.record mending) "u").run gate).2).2

/-- The service after a run over the dependency for development, too. -/
def mended : GateState :=
  (outcome (Request.evaluatePolicies .none [developing] "t" .empty fun _ _ => false).run armed).2

theorem armed_reachable : Reachable Request.ofService armed :=
  .request (.request (.start moment {}) trivial) trivial

theorem mended_reachable : Reachable Request.ofService mended := .request armed_reachable trivial

theorem armed_ranked : rankedOf armed "t" = .ok [{ mending with createdBy := "u" }] :=
  sortDescending_singleton (·.priority) _

theorem mended_ranked : rankedOf mended "t" = .ok [{ mending with createdBy := "u" }] := by
  unfold mended Request.run
  simp only [outcome_discard, outcome_evaluatePolicies, armed_ranked]
  rw [rankedOf_evaluateAll, armed_ranked]

theorem mending_active :
    Policy.active [{ mending with createdBy := "u" }] = .ok [{ mending with createdBy := "u" }] :=
  Policy.active_singleton rfl

theorem mending_filter : [{ mending with createdBy := "u" }].filter (·.tenantId.same "t") =
    [{ mending with createdBy := "u" }] := rfl

theorem armed_run : Succeeds (evaluatePolicies .none [developing] "t" .empty fun _ _ => false) armed := by
  unfold Succeeds Returns
  rw [outcome_evaluatePolicies, armed_ranked]
  dsimp only
  rw [outcome_evaluateAll rfl]
  unfold runTurns
  simp only [mending_filter, mending_active, liftM_eq_ofReading, outcome_bind, outcome_tryCatch, outcome_ofReading]
  unfold turn evaluateAndAct
  simp only [evaluateDependency_eq, mending_active]
  exact ⟨_, _, Prod.ext rfl rfl⟩

theorem executed_fixes_iff_armed :
    Reachable Request.ofService armed ∧
      ∃ r s' turns, Returns (evaluatePolicies .none [developing] "t" .empty fun _ _ => false) armed r s' ∧
        r.executedActions = executedOf turns ∧
        ∀ d e executed, (d, .evaluated e executed) ∈ turns →
          List.Forall₂ (ApprovedFor armed .empty "t" d) e.deeds executed := by
  obtain ⟨m, hm, hiff⟩ := executed_fixes_iff armed_reachable
  obtain ⟨r, s', hr⟩ := armed_run
  obtain ⟨ranked, active, turns, s₁, hranked, hrun, hall⟩ := hiff _ _ _ _ _ _ _ hr
  refine ⟨armed_reachable, r, s', turns, hr, hrun.executedActions, fun d e executed ht => ?_⟩
  refine (hall d e executed ht).mpr fun f hf a ha => ?_
  -- Nothing is on record, and the run is over one dependency and against one policy.
  have hnone : m.byIndex f.key = none := by
    obtain rfl : MemoryStore.empty = m := Store.memory.inj hm
    rfl
  have hd : d = developing := List.mem_singleton.mp (hrun.mem_dependencies ht)
  obtain ⟨t, htaken, hdependency, p, hp, htenant⟩ :=
    Plan.mem_findings (MemoryStore.origin_mem hnone (Plan.findings_subset ht hf))
  have ht : t.1 = developing := List.mem_singleton.mp (hrun.mem_dependencies htaken)
  have hp : p.tenantId = "t" := by
    obtain rfl := Except.ok.inj (armed_ranked.symm.trans hranked)
    have hactive := hrun.ordered
    rw [mending_filter, mending_active, Except.ok.injEq] at hactive
    subst hactive
    rw [List.mem_singleton.mp hp]
    rfl
  rw [ht, ← hd] at hdependency
  exact decidedFor_of_same (htenant.trans hp) (by rw [hdependency]) (by rw [hdependency]) a

set_option maxRecDepth 4096 in
/-- The dependency is now one for production, which no approval rule of the tenant lets proceed, but the
violation on record is of when it was one for development. -/
theorem fix_approved_for_recorded_dependency :
    ∃ s r s' strategy, Reachable Request.ofService s ∧
      Returns (evaluatePolicies .none [dependency "lib"] "t" .empty fun _ _ => false) s r s' ∧
      strategyIn s "t" = .ok strategy ∧
      (∀ q ∈ strategy.approvalRules, ¬ q.Lets "UPDATE" (dependency "lib") .empty) ∧
      r.executedActions.map (fun x => (x.status, x.result)) =
        [(.success, fixReport "UPDATE" strategy.approvalRules.head?)] := by
  obtain ⟨m, hm⟩ := mended_reachable.recording
  have hrun : ∃ r s', Returns (evaluatePolicies .none [dependency "lib"] "t" .empty fun _ _ => false) mended r s' ∧
      r.executedActions.map (fun x => (x.status, x.result)) =
        [(.success, fixReport "UPDATE" trusting.approvalRules.head?)] := by
    have hl : armed.logsEvents = false := rfl
    unfold Returns
    rw [outcome_evaluatePolicies, mended_ranked]
    dsimp only
    rw [outcome_evaluateAll hm.unlogged]
    unfold mended Request.run
    simp only [outcome_discard, outcome_evaluatePolicies, armed_ranked]
    rw [outcome_evaluateAll hl]
    unfold runTurns
    simp only [mending_filter, mending_active, liftM_eq_ofReading, outcome_bind, outcome_tryCatch, outcome_ofReading]
    unfold turn evaluateAndAct
    simp only [evaluateDependency_eq, mending_active]
    exact ⟨_, _, Prod.ext rfl rfl, rfl⟩
  obtain ⟨r, s', hr, hexecuted⟩ := hrun
  refine ⟨mended, r, s', trusting, mended_reachable, hr, ?_, ?_, hexecuted⟩
  · unfold mended Request.run
    simp only [outcome_discard, outcome_evaluatePolicies, armed_ranked]
    have hdeciding : Deciding armed (outcome (evaluateAll .none [developing] "t"
        [{ mending with createdBy := "u" }] .empty fun _ _ => false) armed).2 := deciding_evaluateAll rfl
    unfold strategyIn
    rw [hdeciding.strategies, hdeciding.clock]
    rfl
  · intro q hq hlets
    obtain rfl := List.mem_singleton.mp hq
    cases hlets.condition

end Sample

end SupplyGate
