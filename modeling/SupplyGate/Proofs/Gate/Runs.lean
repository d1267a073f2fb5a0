import SupplyGate.Gate.Violations
import SupplyGate.Proofs.Gate.Actions
import SupplyGate.Proofs.Gate.Evaluation

/-!
# What a run keeps and reports

The turns of a run take ids, publish events, call collaborators and detect findings; nothing else that
they do changes the gate. So an invariant that the first three keep (`Working`) and that detecting keeps is
kept by the turns, and what detecting yields about findings holds of each evaluation that they end with.
A whole run begins and ends with an event and keeps its result besides (`Routine`).
-/

namespace SupplyGate.Gate

/-- An invariant that is kept by everything that the turns of a run do but detecting findings. -/
structure Working (I : GateState → Prop) : Prop where
  numbered : ∀ s kind, I s → I { s with ids := s.ids.bump kind }
  mentioned : ∀ s e, e.change = none → e.framedRun = none → I s → I { s with events := s.events ++ [e] }
  called : ∀ s call, I s → I { s with calls := s.calls ++ [call] }

/-- An invariant that is kept by everything that a run does but detecting findings. -/
structure Routine (I : GateState → Prop) : Prop extends Working I where
  recorded : ∀ s r t, I s → s.evaluations.put r = .ok t → I { s with evaluations := t }
  told : ∀ s e, e.change = none → I s → I { s with events := s.events ++ [e] }
  mentioned := fun s e he _ => told s e he

/-- The same of an invariant that does not depend on which events are published. -/
structure RunLaw (I : GateState → Prop) : Prop extends Routine I where
  published : ∀ s e, I s → I { s with events := s.events ++ [e] }
  told := fun s e _ => published s e

/-- The evaluation of a dependency against some policies reports on those that take effect and are in
scope, by descending priority: each finding is related to its rule by `R`. -/
def Reported (R : Policy × Rule → Violation → Prop) (d : Dependency) (policies : List Policy)
    (c : EvaluationContext) (e : Evaluation) : Prop :=
  ∃ data now order, EvaluationData.of d c now = .ok data ∧ Policy.active policies = .ok order ∧
    Reports R d data now (order.filter (·.inScope d c)) e

variable {I : GateState → Prop} {R : Policy × Rule → Violation → Prop} {d : Dependency}
  {policies : List Policy} {c : EvaluationContext}

theorem mem_evaluationsOf {turns : List (Dependency × Turn)} {e : Evaluation} :
    e ∈ evaluationsOf turns ↔ ∃ t ∈ turns, ∃ executed, t.2 = .evaluated e executed := by
  unfold evaluationsOf
  rw [List.mem_filterMap]
  refine exists_congr fun t => and_congr_right fun _ => ?_
  obtain ⟨d, t⟩ := t
  cases t <;> simp

theorem Reported.withActions {e : Evaluation} (h : Reported R d policies c e) (n : Value) :
    Reported R d policies c { e with actionsExecuted := n } := by
  obtain ⟨data, now, order, hdata, horder, hR⟩ := h
  exact ⟨data, now, order, hdata, horder, hR.policyIds, hR.rulesEvaluated, hR.exceptions, hR.violations,
    hR.warnings, hR.rulesTriggered, hR.status, hR.folded⟩

/-- What holds of each finding for its rule holds of all findings. -/
theorem Reported.findings {F : Violation → Prop} {e : Evaluation}
    (h : Reported (fun _ v => F v) d policies c e) : ∀ v ∈ e.findings, F v := by
  obtain ⟨data, now, order, -, -, hR⟩ := h
  intro v hv
  rcases List.mem_append.mp hv with hv | hv
  · obtain ⟨_, _, hF⟩ := exists_of_forall₂ hR.violations v hv
    exact hF
  · obtain ⟨_, _, hF⟩ := exists_of_forall₂ hR.warnings v hv
    exact hF

theorem yields_evaluateDependency
    (hd : ∀ p ∈ policies, ∀ r ∈ p.rules, ∀ outcome now,
      Yields I (detect p r d outcome c now) (R (p, r))) :
    Yields I (evaluateDependency d policies c) (Reported R d policies c) := by
  intro s hs
  refine ⟨(keeps_evaluateDependency (fun p hp r hr o now => (hd p hp r hr o now).keeps) s hs).1,
    fun e he => ?_⟩
  have hr : Returns (evaluateDependency d policies c) s e (outcome (evaluateDependency d policies c) s).2 :=
    Prod.ext he rfl
  obtain ⟨-, data, order, hdata, horder, hR⟩ :=
    evaluateDependency_reports (fun p hp r hr o => hd p hp r hr o _) hs hr
  exact ⟨data, _, order, hdata, horder, hR⟩

/-! ## Steps of a run -/

theorem turn_eq (others : Collaborators) (evaluationId tenantId : Value) (policies : List Policy)
    (c : EvaluationContext) (cancel : Cancellation) (before : Nat) (d : Dependency) (n : Nat) :
    (turn others evaluationId tenantId policies c cancel before (d, n) : Gate (Dependency × Turn)) = do
      let s ← get
      if cancel n (s.events.drop before) then return (d, .cancelled)
      let ending ← tryCatch (evaluateAndAct others policies c d) (skip evaluationId tenantId d)
      return (d, ending) :=
  rfl

theorem evaluateAll_eq (others : Collaborators) (ds : List Dependency) (tenantId : Value)
    (policies : List Policy) (c : EvaluationContext) (cancel : Cancellation) :
    evaluateAll others ds tenantId policies c cancel = do
      let evaluationId ← fresh .evaluation
      let s ← get
      publish (.evaluationStarted evaluationId tenantId ds.length)
      let r ← tryCatch (runTurns others evaluationId tenantId policies c cancel s.events.length s.now ds)
        fun f => do
          publish (.evaluationFailed evaluationId tenantId f.message)
          throw f
      publish (.evaluationCompleted evaluationId tenantId r.summary.violationsDetected
        r.summary.blockedDependencies r.skipped)
      return r :=
  rfl

/-- A run does not move the clock. -/
theorem RunLaw.timed (L : RunLaw I) (now : Timestamp) : RunLaw fun s => I s ∧ s.now = now where
  recorded s r t hs ht := ⟨L.recorded s r t hs.1 ht, hs.2⟩
  numbered s kind hs := ⟨L.numbered s kind hs.1, hs.2⟩
  published s e hs := ⟨L.published s e hs.1, hs.2⟩
  called s call hs := ⟨L.called s call hs.1, hs.2⟩

theorem keeps_publish_of {e : Event} (h : ∀ s, I s → I { s with events := s.events ++ [e] }) :
    Keeps I (publish e) := by
  intro s hs
  refine ⟨?_, fun _ _ => trivial⟩
  rw [outcome_publish]
  split
  · exact hs
  · exact h s hs

theorem RunLaw.keeps_publish (L : RunLaw I) (e : Event) : Keeps I (publish e) :=
  keeps_publish_of fun s hs => L.published s e hs

namespace Working

variable (L : Working I)
include L

theorem keeps_mention (e : Event) (he : e.change = none) (hf : e.framedRun = none) : Keeps I (publish e) :=
  keeps_publish_of fun s hs => L.mentioned s e he hf hs

theorem keeps_noteCall (call : CollaboratorCall) : Keeps I (noteCall call) :=
  .modify fun s hs => L.called s call hs

/-- An id that is given out is a text. -/
theorem yields_fresh (kind : IdKind) : Yields I (fresh kind) fun id => ∃ text : String, id = text := by
  refine fun s hs => ⟨L.numbered s kind hs, fun id hid => ?_⟩
  cases hid
  exact ⟨_, rfl⟩

theorem keeps_fresh (kind : IdKind) : Keeps I (fresh kind) := (L.yields_fresh kind).keeps

/-- Detecting a finding keeps what is kept by telling that a violation is open again, and by filing it. -/
theorem keeps_detect {p : Policy} {r : Rule} {o : ConditionOutcome} {now : Timestamp}
    (ho : ∀ tenantId id, Keeps I (publish (.statusChanged tenantId id .resolved .open "system")))
    (hv : ∀ s violations, I s → I { s with violations }) : Keeps I (detect p r d o c now) :=
  Gate.keeps_detect (L.keeps_fresh _) ho fun _ => yields_findOrAdd _ fun s _ t hs _ => ⟨hv s t hs, trivial⟩

variable {others : Collaborators} {evaluationId tenantId : Value} {cancel : Cancellation} {before : Nat}

theorem keeps_skip (f : Fault) : Keeps I (skip evaluationId tenantId d f) :=
  Keeps.bind keeps_ofReading fun _ => Keeps.bind (L.keeps_mention _ rfl rfl) fun _ => keeps_pure

theorem yields_evaluateAndAct
    (hd : ∀ p ∈ policies, ∀ r ∈ p.rules, ∀ outcome now,
      Yields I (detect p r d outcome c now) (R (p, r))) :
    Yields I (evaluateAndAct others policies c d) fun t =>
      ∀ e executed, t = .evaluated e executed → Reported R d policies c e := by
  refine (yields_evaluateDependency hd).bind fun e he => ?_
  refine Yields.bind (Keeps.mapM fun v _ => ?_) fun _ _ => .pure ?_
  · exact keeps_execute (fun e he => L.keeps_mention e he.change he.framedRun) L.keeps_noteCall
  · rintro _ _ ⟨⟩
    exact he.withActions _

/-- The turn of a dependency is about it, and reports what detecting its findings yields. -/
theorem yields_turn (n : Nat)
    (hd : ∀ p ∈ policies, ∀ r ∈ p.rules, ∀ outcome now,
      Yields I (detect p r d outcome c now) (R (p, r))) :
    Yields I (turn others evaluationId tenantId policies c cancel before (d, n)) fun t =>
      t.1 = d ∧ ∀ e executed, t.2 = .evaluated e executed → Reported R d policies c e := by
  refine Yields.bind keeps_get fun s _ => ?_
  split
  · exact .pure ⟨rfl, by simp⟩
  · refine Yields.bind (Yields.tryCatch (L.yields_evaluateAndAct hd) fun f => ?_) fun t ht => .pure ⟨rfl, ht⟩
    exact Yields.bind keeps_ofReading fun _ _ => Yields.bind (L.keeps_mention _ rfl rfl) fun _ _ => .pure (by simp)

end Working

namespace Routine

variable (L : Routine I) {others : Collaborators} {evaluationId tenantId : Value} {cancel : Cancellation} {before : Nat}
include L

theorem keeps_tell (e : Event) (he : e.change = none) : Keeps I (publish e) :=
  keeps_publish_of fun s hs => L.told s e he hs

theorem keeps_keepResult (r : EnforcementResult) : Keeps I (keep .evaluations r) := by
  intro s hs
  refine ⟨?_, fun _ _ => trivial⟩
  rw [outcome_keep]
  split
  · next t ht => exact L.recorded s r t hs ht
  · exact hs

/-- Each evaluation of a run is of one of its dependencies, against the policies of the tenant, and
reports what detecting its findings yields. -/
theorem yields_runTurns {start : Timestamp} {ds : List Dependency}
    {R : Dependency → Policy × Rule → Violation → Prop}
    (hd : ∀ p ∈ policies, p.tenantId.same tenantId = true → ∀ r ∈ p.rules, ∀ d ∈ ds, ∀ outcome now,
      Yields I (detect p r d outcome c now) (R d (p, r))) :
    Yields I (runTurns others evaluationId tenantId policies c cancel before start ds) fun r =>
      ∀ e ∈ r.evaluations, ∃ d ∈ ds, ∃ active,
        (∀ p ∈ active, p ∈ policies ∧ p.tenantId.same tenantId = true) ∧ Reported (R d) d active c e := by
  refine Yields.bind (.ofReading fun _ => id) fun active hactive => ?_
  have hmem : ∀ p ∈ active, p ∈ policies ∧ p.tenantId.same tenantId = true := fun p hp =>
    List.mem_filter.mp (mem_of_active hactive p hp)
  refine Yields.bind (F := fun turns => ∀ e ∈ evaluationsOf turns, ∃ d ∈ ds, Reported (R d) d active c e)
    ?_ fun turns hturns => ?_
  · refine (Yields.takeAll_mem (R := fun dn t => t.1 = dn.1 ∧
      ∀ e executed, t.2 = .evaluated e executed → Reported (R dn.1) dn.1 active c e) fun dn hdn => ?_).mono ?_
    · have hds : dn.1 ∈ ds := List.fst_mem_of_mem_zipIdx hdn
      exact L.yields_turn dn.2 fun p hp r hr outcome now =>
        hd p (hmem p hp).1 (hmem p hp).2 r hr dn.1 hds outcome now
    · intro turns hturns e he
      obtain ⟨t, ht, executed, hte⟩ := mem_evaluationsOf.mp he
      obtain ⟨dn, hdn, -, hrep⟩ := hturns t ht
      exact ⟨dn.1, List.fst_mem_of_mem_zipIdx hdn, hrep e executed hte⟩
  · refine Yields.bind keeps_clock fun finish _ => Yields.bind keeps_ofReading fun summary _ => ?_
    refine Yields.bind (L.keeps_keepResult _) fun _ _ => .pure fun e he => ?_
    obtain ⟨d, hd, hrep⟩ := hturns e he
    exact ⟨d, hd, active, hmem, hrep⟩

/-- A whole run publishes events around its turns, and yields what they do. -/
theorem yields_evaluateAll_of {ds : List Dependency} {F : EnforcementResult → Prop}
    (h : ∀ evaluationId before start,
      Yields I (runTurns others evaluationId tenantId policies c cancel before start ds) F) :
    Yields I (evaluateAll others ds tenantId policies c cancel) F := by
  refine Yields.bind (L.keeps_fresh _) fun evaluationId _ => Yields.bind keeps_clock fun start _ => ?_
  refine Yields.bind keeps_get fun s _ => Yields.bind (L.keeps_tell _ rfl) fun _ _ => ?_
  refine Yields.bind (Yields.tryCatch (h _ _ _) fun f => ?_) fun result hresult => ?_
  · exact Yields.bind (L.keeps_tell _ rfl) fun _ _ => .throw
  · exact Yields.bind (L.keeps_tell _ rfl) fun _ _ => .pure hresult

/-- The same of a whole run. -/
theorem yields_evaluateAll {ds : List Dependency} {R : Dependency → Policy × Rule → Violation → Prop}
    (hd : ∀ p ∈ policies, p.tenantId.same tenantId = true → ∀ r ∈ p.rules, ∀ d ∈ ds, ∀ outcome now,
      Yields I (detect p r d outcome c now) (R d (p, r))) :
    Yields I (evaluateAll others ds tenantId policies c cancel) fun r =>
      ∀ e ∈ r.evaluations, ∃ d ∈ ds, ∃ active,
        (∀ p ∈ active, p ∈ policies ∧ p.tenantId.same tenantId = true) ∧ Reported (R d) d active c e :=
  L.yields_evaluateAll_of fun _ _ _ => L.yields_runTurns hd

omit L in
theorem keeps_policiesOf : Keeps I (policiesOf tenantId) :=
  Keeps.bind (keeps_get.bind fun _ => keeps_ofReading) fun _ => keeps_ofReading

/-- The same of a run against the stored policies of a tenant. -/
theorem yields_evaluatePolicies {ds : List Dependency} {R : Dependency → Policy × Rule → Violation → Prop}
    (hd : ∀ p : Policy, p.tenantId.same tenantId = true → ∀ r ∈ p.rules, ∀ d ∈ ds, ∀ outcome now,
      Yields I (detect p r d outcome c now) (R d (p, r))) :
    Yields I (evaluatePolicies others ds tenantId c cancel) fun r =>
      ∀ e ∈ r.evaluations, ∃ d ∈ ds, ∃ active,
        (∀ p ∈ active, p.tenantId.same tenantId = true) ∧ Reported (R d) d active c e := by
  refine Yields.bind (keeps_policiesOf) fun policies _ => ?_
  refine (L.yields_evaluateAll fun p _ hp r hr d hds outcome now => hd p hp r hr d hds outcome now).mono ?_
  intro r hr e he
  obtain ⟨d, hds, active, hactive, hrep⟩ := hr e he
  exact ⟨d, hds, active, fun p hp => (hactive p hp).2, hrep⟩

end Routine

end SupplyGate.Gate
