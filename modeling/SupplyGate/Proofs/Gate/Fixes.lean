import SupplyGate.Proofs.Gate.Runs
import SupplyGate.Proofs.Policy.Approval

/-!
# How fixes are decided

An automatic fix is decided on what its violation says: by the update strategy of the tenant that the
violation is of, and on the dependency that it holds. A run changes no update strategy and does not move
its clock. So each fix that it carries out tells of the decision as it would have been before the run
(`yields_turn_fixed`).
-/

namespace SupplyGate

/-- What a fix by some strategy reports, given the approval rule that lets it proceed. -/
def fixReport (strategy : String) (approving : Option ApprovalRule) : Value :=
  .fields [
    ("auto_fix_triggered", .bool true),
    ("strategy", strategy),
    ("requires_approval", .bool approving.isNone),
    ("approved_by_rule", (approving.map fun r => Scale.value r.condition).getD .null)]

/-- A report tells by which condition the fix may proceed, or that it needs approval. -/
theorem fixReport_eq_iff {strategy : String} {o o' : Option ApprovalRule} :
    fixReport strategy o = fixReport strategy o' ↔ o.map (·.condition) = o'.map (·.condition) := by
  have htext : ∀ x y : ApprovalCondition, x.toText = y.toText → x = y := by
    intro x y
    cases x <;> cases y <;> decide
  constructor
  · intro h
    cases o with
    | none =>
      cases o' with
      | none => rfl
      | some r => simp [fixReport, Value.fields] at h
    | some r =>
      cases o' with
      | none => simp [fixReport, Value.fields] at h
      | some r' =>
        obtain hcondition : Scale.text r.condition = Scale.text r'.condition := by
          simpa [fixReport, Value.fields, Scale.value] using h
        exact congrArg some (htext _ _ hcondition)
  · intro h
    cases o with
    | none =>
      cases o' with
      | none => rfl
      | some r => cases h
    | some r =>
      cases o' with
      | none => cases h
      | some r' =>
        have hcondition : r.condition = r'.condition := Option.some.inj h
        simp [fixReport, hcondition]

/-- An executed fix reports the decision on it; if none could be made, it has failed. -/
def ExecutedAction.Tells (x : ExecutedAction) : Reading (String × Option ApprovalRule) → Prop
  | .ok (strategy, approving) => x.status = .success ∧ x.result = fixReport strategy approving
  | .error _ => x.status = .failed ∧ x.result = .null

/-- What is to be done about the findings of an evaluation, in order. -/
def Evaluation.deeds (e : Evaluation) : List (Violation × RuleAction) :=
  e.findings.flatMap fun v => v.details.rule.enabledActions.map (v, ·)

namespace Gate

variable {s t : GateState} {others : Collaborators} {c : EvaluationContext} {v : Violation} {a : RuleAction}

/-- The update strategy that a tenant has. -/
def strategyIn (s : GateState) (tenantId : Value) : Reading UpdateStrategy := do
  return (← s.strategies.get s.now tenantId).getD (.standard tenantId)

/-- The decision on the fix of a dependency of a tenant: by which strategy it is done, and which of the
approval rules of the tenant lets it proceed. -/
def fixDecision (s : GateState) (c : EvaluationContext) (a : RuleAction) (tenantId : Value) (d : Dependency) :
    Reading (String × Option ApprovalRule) := do
  let strategy ← configuredText a.config.autoFixStrategy "UPDATE"
  let u ← strategyIn s tenantId
  return (strategy, ← ApprovalRule.firstApproving strategy d c u.approvalRules)

theorem fixDecision_ok {tenantId : Value} {d : Dependency} {strategy : String} {o : Option ApprovalRule} :
    fixDecision s c a tenantId d = .ok (strategy, o) ↔
      configuredText a.config.autoFixStrategy "UPDATE" = .ok strategy ∧
      ∃ u, strategyIn s tenantId = .ok u ∧
        ApprovalRule.firstApproving strategy d c u.approvalRules = .ok o := by
  constructor
  · intro h
    obtain ⟨strategy', hs, h⟩ := Reading.bind_eq_ok.mp h
    obtain ⟨u, hu, h⟩ := Reading.bind_eq_ok.mp h
    obtain ⟨o', ho, h⟩ := Reading.bind_eq_ok.mp h
    obtain ⟨rfl, rfl⟩ := Prod.mk.inj (Reading.pure_eq_ok.mp h)
    exact ⟨hs, u, hu, ho⟩
  · rintro ⟨hs, u, hu, ho⟩
    refine Reading.bind_eq_ok.mpr ⟨strategy, hs, Reading.bind_eq_ok.mpr ⟨u, hu, ?_⟩⟩
    exact Reading.bind_eq_ok.mpr ⟨o, ho, rfl⟩

theorem outcome_strategyOf (tenantId : Value) (s : GateState) :
    outcome (strategyOf tenantId) s = (strategyIn s tenantId, s) := by
  have hread : Shelf.strategies.read s = s.strategies := rfl
  unfold strategyOf strategyIn
  rw [outcome_bind, outcome_find, hread]
  cases s.strategies.get s.now tenantId <;> rfl

/-- A fix is told and reported as it is decided on its violation. -/
theorem outcome_autoFix (s : GateState) :
    outcome (autoFix a.config v c) s = outcome (do
      let x ← ofReading (fixDecision s c a v.tenantId v.dependency)
      publish (.autoFixTriggered v x.1 x.2.isNone)
      return fixReport x.1 x.2) s := by
  unfold autoFix fixDecision
  cases configuredText a.config.autoFixStrategy "UPDATE" with
  | error f => rfl
  | ok strategy =>
    simp only [liftM_eq_ofReading, outcome_bind, outcome_ofReading, outcome_strategyOf]
    cases strategyIn s v.tenantId with
    | error f => rfl
    | ok u =>
      cases hfirst : ApprovalRule.firstApproving strategy v.dependency c u.approvalRules with
      | error f =>
        simp only [bind, Except.bind, hfirst]
      | ok o =>
        simp only [bind, Except.bind, hfirst]
        rfl

/-- A fix is executed as it is decided on its violation, where events are not logged. -/
theorem runAction_autoFix (hl : s.logsEvents = false) (ha : a.type = ActionType.autoFix.toText) :
    ∃ x, (outcome (runAction others v c a) s).1 = .ok x ∧
      x.Tells (fixDecision s c a v.tenantId v.dependency) := by
  have hperform : perform others v c a = autoFix a.config v c := by
    have htype : (Scale.ofText? a.type : Option ActionType) = some .autoFix := by
      rw [ha]
      decide
    unfold perform
    rw [htype]
    rfl
  unfold runAction
  rw [hperform, outcome_tryCatch, outcome_bind, outcome_autoFix, outcome_bind, outcome_ofReading]
  cases fixDecision s c a v.tenantId v.dependency with
  | error f => exact ⟨_, rfl, rfl, rfl⟩
  | ok decision =>
    dsimp only
    rw [outcome_bind, outcome_publish_unlogged _ hl]
    exact ⟨_, rfl, rfl, rfl⟩

/-! ## Runs -/

/-- The gate decides on fixes as it did in the state `s`. -/
structure Deciding (s t : GateState) : Prop where
  unlogged : t.logsEvents = false
  strategies : t.strategies = s.strategies
  clock : t.now = s.now

theorem Deciding.fixDecision (h : Deciding s t) (c : EvaluationContext) (a : RuleAction) (tenantId : Value)
    (d : Dependency) : fixDecision t c a tenantId d = fixDecision s c a tenantId d := by
  unfold Gate.fixDecision strategyIn
  rw [h.strategies, h.clock]

theorem deciding_runLaw (s : GateState) : RunLaw (Deciding s) where
  recorded _ _ _ ht _ := ⟨ht.unlogged, ht.strategies, ht.clock⟩
  numbered _ _ ht := ⟨ht.unlogged, ht.strategies, ht.clock⟩
  published _ _ ht := ⟨ht.unlogged, ht.strategies, ht.clock⟩
  called _ _ ht := ⟨ht.unlogged, ht.strategies, ht.clock⟩

/-- If the deed is a fix, it was executed as it is decided on its violation in the state `s`. -/
def Fixed (s : GateState) (c : EvaluationContext) (deed : Violation × RuleAction) (x : ExecutedAction) : Prop :=
  deed.2.type = ActionType.autoFix.toText → x.Tells (fixDecision s c deed.2 deed.1.tenantId deed.1.dependency)

theorem yields_execute_fixed (s : GateState) (v : Violation) :
    Yields (Deciding s) (execute others c v) fun executed =>
      List.Forall₂ (Fixed s c) (v.details.rule.enabledActions.map (v, ·)) executed := by
  have L := deciding_runLaw s
  refine (Yields.mapM (R := fun a x => Fixed s c (v, a) x) fun a _ => ?_).mono fun executed h => ?_
  · intro t ht
    refine ⟨(keeps_runAction (fun e _ => L.keeps_publish e) L.keeps_noteCall a t ht).1, fun x hx ha => ?_⟩
    obtain ⟨x', hx', htells⟩ := runAction_autoFix ht.unlogged ha
    obtain rfl := Except.ok.inj (hx.symm.trans hx')
    rwa [ht.fixDecision] at htells
  · rwa [List.forall₂_map_left_iff]

theorem forall₂_flatten {α β γ : Type} {R : β → γ → Prop} {f : α → List β} {as : List α}
    {ls : List (List γ)} (h : List.Forall₂ (fun a l => List.Forall₂ R (f a) l) as ls) :
    List.Forall₂ R (as.flatMap f) ls.flatten := by
  induction h with
  | nil => exact .nil
  | cons hl _ ih =>
    rw [List.flatMap_cons, List.flatten_cons]
    exact List.rel_append hl ih

theorem keeps_evaluateDependency_deciding (s : GateState) (d : Dependency) (policies : List Policy)
    (c : EvaluationContext) : Keeps (Deciding s) (evaluateDependency d policies c) := by
  refine keeps_evaluateDependency fun p _ r _ outcome now => keeps_detect_of ?_ ?_ ?_
  · exact fun _ _ ht => ⟨ht.unlogged, ht.strategies, ht.clock⟩
  · exact fun _ _ ht => ⟨ht.unlogged, ht.strategies, ht.clock⟩
  · exact fun _ _ ht => ⟨ht.unlogged, ht.strategies, ht.clock⟩

/-- A turn executes the deeds of its evaluation, the fixes as they are decided before the run. -/
theorem yields_turn_fixed (s : GateState) {evaluationId tenantId : Value} {policies : List Policy}
    {cancel : Cancellation} {before : Nat} (dn : Dependency × Nat) :
    Yields (Deciding s) (turn others evaluationId tenantId policies c cancel before dn) fun t =>
      ∀ e executed, t.2 = .evaluated e executed → List.Forall₂ (Fixed s c) e.deeds executed := by
  have L := deciding_runLaw s
  refine Yields.bind keeps_get fun t _ => ?_
  split
  · exact .pure (by simp)
  · refine Yields.bind (F := fun ending => ∀ e executed, ending = .evaluated e executed →
      List.Forall₂ (Fixed s c) e.deeds executed) (Yields.tryCatch ?_ fun f => ?_) fun ending h => .pure h
    · refine Yields.bind (keeps_evaluateDependency_deciding s dn.1 policies c) fun e _ => ?_
      refine Yields.bind (.mapM fun v _ => yields_execute_fixed s v) fun executed hexecuted => .pure ?_
      rintro _ _ ⟨⟩
      exact forall₂_flatten hexecuted
    · refine Yields.bind keeps_ofReading fun _ _ => ?_
      exact Yields.bind (L.keeps_publish _) fun _ _ => .pure (by simp)

/-- A run leaves the update strategies and the clock alone. -/
theorem deciding_evaluateAll {ds : List Dependency} {tenantId : Value} {policies : List Policy}
    {cancel : Cancellation} (hl : s.logsEvents = false) :
    Deciding s (outcome (evaluateAll others ds tenantId policies c cancel) s).2 := by
  have hrun : Yields (Deciding s) (evaluateAll others ds tenantId policies c cancel) _ :=
    (deciding_runLaw s).yields_evaluateAll (R := fun _ _ _ => True) fun _ _ _ _ _ _ _ _ _ => keeps_detect_of
      (fun _ _ ht => ⟨ht.unlogged, ht.strategies, ht.clock⟩) (fun _ _ ht => ⟨ht.unlogged, ht.strategies, ht.clock⟩)
      fun _ _ ht => ⟨ht.unlogged, ht.strategies, ht.clock⟩
  exact (hrun s ⟨hl, rfl, rfl⟩).1

end Gate
end SupplyGate
