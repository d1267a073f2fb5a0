import SupplyGate.Gate.Evaluator
import SupplyGate.Proofs.Gate.Steps
import SupplyGate.Proofs.Policy.Selection
import SupplyGate.Proofs.Sample
import SupplyGate.Proofs.Store.Memory

/-!
# What an evaluation reports

An evaluation threads a tally and the stores through the rules of the policies it takes. `Reflects`
is what the tally says after some of the rules: how many were checked, which exceptions set rules
aside, and one finding for each rule that fires, in order and in its list. Each rule extends it by
itself (`checkRule_yields`), and so does each policy (`checkPolicy_yields`); what a finding says about
its rule is a parameter `R`, so that the same induction carries every property of findings that
storing them respects.
-/

namespace SupplyGate

/-! ## Rules that fire -/

/-- The rule is not set aside, and its conditions fold to true. -/
def fires (d : Dependency) (data : EvaluationData) (now : Timestamp) (pr : Policy × Rule) : Bool :=
  (pr.1.waiver d now pr.2).isNone && pr.2.holdsOn data

/-- The rules that fire and block. -/
def blockingRules (d : Dependency) (data : EvaluationData) (now : Timestamp)
    (rules : List (Policy × Rule)) : List (Policy × Rule) :=
  rules.filter fun pr => fires d data now pr && pr.2.isBlocking

/-- The rules that fire and only warn. -/
def warningRules (d : Dependency) (data : EvaluationData) (now : Timestamp)
    (rules : List (Policy × Rule)) : List (Policy × Rule) :=
  rules.filter fun pr => fires d data now pr && !pr.2.isBlocking

theorem blockingRules_snoc (d : Dependency) (data : EvaluationData) (now : Timestamp)
    (rules : List (Policy × Rule)) (pr : Policy × Rule) :
    blockingRules d data now (rules ++ [pr]) =
      blockingRules d data now rules ++ if fires d data now pr && pr.2.isBlocking then [pr] else [] := by
  simp only [blockingRules, List.filter_append, List.filter_singleton, Bool.cond_eq_ite]

theorem warningRules_snoc (d : Dependency) (data : EvaluationData) (now : Timestamp)
    (rules : List (Policy × Rule)) (pr : Policy × Rule) :
    warningRules d data now (rules ++ [pr]) =
      warningRules d data now rules ++ if fires d data now pr && !pr.2.isBlocking then [pr] else [] := by
  simp only [warningRules, List.filter_append, List.filter_singleton, Bool.cond_eq_ite]

/-- The conditions of a rule can be folded. -/
def Folds (data : EvaluationData) (r : Rule) : Prop :=
  ∃ outcome, ConditionOutcome.of Field.standard data r.conditions = .ok outcome

/-- The tally says about some rules, and the policies with these ids, what it should: each finding
is related to its rule by `R`. -/
structure Tally.Reflects (R : Policy × Rule → Violation → Prop) (d : Dependency)
    (data : EvaluationData) (now : Timestamp) (ids : List Value) (rules : List (Policy × Rule))
    (t : Tally) : Prop where
  policyIds : t.policyIds = ids
  rulesEvaluated : t.rulesEvaluated = rules.length
  exceptions : t.exceptions = rules.filterMap fun pr => pr.1.waiver d now pr.2
  violations : List.Forall₂ R (blockingRules d data now rules) t.violations
  warnings : List.Forall₂ R (warningRules d data now rules) t.warnings
  rulesTriggered : t.rulesTriggered = t.violations.length + t.warnings.length
  folded : ∀ pr ∈ rules, pr.1.waiver d now pr.2 = none → Folds data pr.2

namespace Tally.Reflects

variable {R : Policy × Rule → Violation → Prop} {d : Dependency} {data : EvaluationData}
  {now : Timestamp} {ids : List Value} {rules : List (Policy × Rule)} {t : Tally}

theorem empty : Reflects R d data now [] [] .empty :=
  ⟨rfl, rfl, rfl, .nil, .nil, rfl, by simp⟩

/-- A policy that is taken adds its id. -/
theorem policy (h : Reflects R d data now ids rules t) (id : Value) :
    Reflects R d data now (ids ++ [id]) rules { t with policyIds := t.policyIds ++ [id] } where
  policyIds := by rw [h.policyIds]
  rulesEvaluated := h.rulesEvaluated
  exceptions := h.exceptions
  violations := h.violations
  warnings := h.warnings
  rulesTriggered := h.rulesTriggered
  folded := h.folded

variable {p : Policy} {r : Rule}

/-- One more rule that is set aside or whose conditions can be folded. -/
theorem folded_snoc (h : Reflects R d data now ids rules t)
    (hr : p.waiver d now r = none → Folds data r) :
    ∀ pr ∈ rules ++ [(p, r)], pr.1.waiver d now pr.2 = none → Folds data pr.2 := by
  intro pr hpr
  rcases List.mem_append.mp hpr with hpr | hpr
  · exact h.folded pr hpr
  · rw [List.mem_singleton.mp hpr]
    exact hr

/-- A rule that does not fire leaves the findings alone; its exception counts if it has one. -/
theorem silent (h : Reflects R d data now ids rules t) (hf : fires d data now (p, r) = false)
    (hr : p.waiver d now r = none → Folds data r) :
    Reflects R d data now ids (rules ++ [(p, r)]) { t with
      rulesEvaluated := t.rulesEvaluated + 1
      exceptions := t.exceptions ++ (p.waiver d now r).toList } where
  policyIds := h.policyIds
  rulesEvaluated := by simp [h.rulesEvaluated]
  exceptions := by
    rw [h.exceptions, List.filterMap_append]
    cases hw : p.waiver d now r <;> simp [hw]
  violations := by
    rw [blockingRules_snoc]
    simpa [hf] using h.violations
  warnings := by
    rw [warningRules_snoc]
    simpa [hf] using h.warnings
  rulesTriggered := h.rulesTriggered
  folded := h.folded_snoc hr

/-- A rule that fires adds its finding to the list that it belongs to. -/
theorem finding (h : Reflects R d data now ids rules t) (hf : fires d data now (p, r) = true)
    (hr : Folds data r) {v : Violation} (hv : R (p, r) v) :
    Reflects R d data now ids (rules ++ [(p, r)])
      (addFinding { t with rulesEvaluated := t.rulesEvaluated + 1 } r v) := by
  have hw : p.waiver d now r = none := by
    simp only [fires, Bool.and_eq_true, Option.isNone_iff_eq_none] at hf
    exact hf.1
  have hone : List.Forall₂ R [(p, r)] [v] := .cons hv .nil
  have hfold := h.folded_snoc (p := p) fun _ => hr
  unfold addFinding
  cases hb : r.isBlocking with
  | true =>
    refine ⟨h.policyIds, by simp [h.rulesEvaluated], by simp [h.exceptions, hw], ?_, ?_, ?_, hfold⟩
    · rw [blockingRules_snoc]
      simpa [hf, hb] using List.rel_append h.violations hone
    · rw [warningRules_snoc]
      simpa [hf, hb] using h.warnings
    · simp [h.rulesTriggered]
      omega
  | false =>
    refine ⟨h.policyIds, by simp [h.rulesEvaluated], by simp [h.exceptions, hw], ?_, ?_, ?_, hfold⟩
    · rw [blockingRules_snoc]
      simpa [hf, hb] using h.violations
    · rw [warningRules_snoc]
      simpa [hf, hb] using List.rel_append h.warnings hone
    · simp [h.rulesTriggered]
      omega

end Tally.Reflects

namespace Gate

/-! ## Rules and policies one by one -/

/-- Find the violation of a triggered rule, and store or refresh it. -/
def detect (p : Policy) (r : Rule) (d : Dependency) (outcome : ConditionOutcome)
    (c : EvaluationContext) (now : Timestamp) : Gate Violation := do
  record now (← foundViolation p r d outcome c now)

theorem checkRule_eq (p : Policy) (d : Dependency) (data : EvaluationData) (c : EvaluationContext)
    (now : Timestamp) (t : Tally) (r : Rule) (h : r.enabled.truthy = true) :
    checkRule p d data c now t r = do
      let t := { t with rulesEvaluated := t.rulesEvaluated + 1 }
      match ← ofReading (p.exceptionFor r d now) with
      | some e => return { t with exceptions := t.exceptions ++ [e] }
      | none => do
        let outcome ← ofReading (ConditionOutcome.of Field.standard data r.conditions)
        if !outcome.triggered then return t
        return t.addFinding r (← detect p r d outcome c now) := by
  unfold checkRule detect
  simp only [h, Bool.not_true, Bool.false_eq_true, if_false, bind_assoc]
  rfl

section Yields

variable {I : GateState → Prop} {R : Policy × Rule → Violation → Prop} {d : Dependency}
  {data : EvaluationData} {c : EvaluationContext} {now : Timestamp} {ids : List Value}
  {rules : List (Policy × Rule)} {t : Tally}

/-- Checking a rule of a policy extends what the tally reflects by that rule, if it is enabled. -/
theorem checkRule_yields {p : Policy} {r : Rule}
    (hd : ∀ outcome, Yields I (detect p r d outcome c now) (R (p, r)))
    (ht : t.Reflects R d data now ids rules) :
    Yields I (checkRule p d data c now t r)
      (Tally.Reflects R d data now ids (rules ++ ([r].filter (·.enabled.truthy)).map fun r => (p, r))) := by
  cases he : r.enabled.truthy with
  | false =>
    unfold checkRule
    simp only [he, Bool.not_false, if_true, List.filter_cons, List.filter_nil, Bool.false_eq_true, if_false,
      List.map_nil, List.append_nil]
    exact .pure ht
  | true =>
    rw [checkRule_eq _ _ _ _ _ _ _ he]
    simp only [he, List.filter_cons, List.filter_nil, if_true, List.map_cons, List.map_nil]
    refine .bind (.ofReading fun o => Policy.exceptionFor_ok) fun o ho => ?_
    subst ho
    have hsilent := ht.silent (p := p) (r := r)
    cases hw : p.waiver d now r with
    | some e => exact .pure (by simpa [hw] using hsilent (by simp [fires, hw]) (by simp [hw]))
    | none =>
      refine .bind (.ofReading fun _ => id) fun outcome ho => ?_
      have hh : r.holdsOn data = outcome.triggered := by rw [Rule.holdsOn, ho]
      cases hf : outcome.triggered with
      | false =>
        refine .pure ?_
        simpa [hw] using hsilent (by simp [fires, hw, hh, hf]) fun _ => ⟨outcome, ho⟩
      | true =>
        have hfires : fires d data now (p, r) = true := by simp [fires, hw, hh, hf]
        exact (hd outcome).bind fun v hv => .pure (ht.finding hfires ⟨outcome, ho⟩ hv)

/-- Checking a policy extends what the tally reflects by the policy, if it is in scope, and by its
enabled rules. -/
theorem checkPolicy_yields {p : Policy} {taken : List Policy}
    (hd : ∀ r ∈ p.rules, ∀ outcome, Yields I (detect p r d outcome c now) (R (p, r)))
    (ht : t.Reflects R d data now (taken.map (·.id)) (enabledRules taken)) :
    Yields I (checkPolicy d data c now t p)
      (Tally.Reflects R d data now ((taken ++ [p].filter (·.inScope d c)).map (·.id))
        (enabledRules (taken ++ [p].filter (·.inScope d c)))) := by
  refine .bind (.ofReading fun b => Policy.appliesTo_ok) fun b hb => ?_
  subst hb
  cases hs : p.inScope d c with
  | false => exact .pure (by simpa [hs] using ht)
  | true =>
    simp only [if_true, List.filter_cons, hs, List.filter_nil, List.map_append, List.map_cons, List.map_nil,
      enabledRules_append, enabledRules_singleton]
    refine Yields.foldlM (T := fun before => Tally.Reflects R d data now
      (taken.map (·.id) ++ [p.id])
      (enabledRules taken ++ (before.filter (·.enabled.truthy)).map fun r => (p, r))) ?_ ?_
    · simpa using ht.policy p.id
    · intro before r t hr ht
      rw [List.filter_append, List.map_append, ← List.append_assoc]
      exact checkRule_yields (hd r hr) ht

/-- Checking policies in some order reflects those in scope, with their enabled rules. -/
theorem checkPolicies_yields {order : List Policy}
    (hd : ∀ p ∈ order, ∀ r ∈ p.rules, ∀ outcome, Yields I (detect p r d outcome c now) (R (p, r))) :
    Yields I (order.foldlM (checkPolicy d data c now) .empty)
      (Tally.Reflects R d data now ((order.filter (·.inScope d c)).map (·.id))
        (enabledRules (order.filter (·.inScope d c)))) := by
  refine Yields.foldlM (T := fun before => Tally.Reflects R d data now
    ((before.filter (·.inScope d c)).map (·.id)) (enabledRules (before.filter (·.inScope d c)))) .empty ?_
  intro before p t hp ht
  rw [List.filter_append]
  exact checkPolicy_yields (hd p hp) ht

end Yields

/-! ## Findings and the record of them -/

section Findings

variable {I : GateState → Prop} {now : Timestamp}

/-- Recording a violation yields what storing it yields, where telling that it is open again keeps the invariant. -/
theorem record_yields {F : Violation → Prop} {v : Violation}
    (hp : ∀ tenantId id, Keeps I (publish (.statusChanged tenantId id .resolved .open "system")))
    (hv : (∀ part ∈ v.keyParts, part.isWritable = true) →
      Yields I (findOrAdd .violations v.key v (Finding.seenAgain now v)) fun found => F found.record) :
    Yields I (record now v) F := by
  refine Yields.bind (.ofReading fun _ h => Value.checkAll_eq_ok.mp h) fun _ hparts => (hv hparts).bind fun found hf => ?_
  cases found.previous with
  | none => exact .pure hf
  | some old =>
    dsimp only
    split
    · exact Yields.bind (hp _ _) fun _ _ => .pure hf
    · exact .pure hf

/-- Detecting a finding keeps what its id, the events of it and its storage keep. -/
theorem keeps_detect {p : Policy} {r : Rule} {d : Dependency} {outcome : ConditionOutcome}
    {c : EvaluationContext} (hi : Keeps I (fresh .violation))
    (hp : ∀ tenantId id, Keeps I (publish (.statusChanged tenantId id .resolved .open "system")))
    (hv : ∀ v : Violation, Keeps I (findOrAdd .violations v.key v (Finding.seenAgain now v))) :
    Keeps I (detect p r d outcome c now) := by
  refine Keeps.bind ?_ fun v => record_yields hp fun _ => (hv v).mono fun _ _ => trivial
  refine keeps_ofReading.bind fun _ => keeps_ofReading.bind fun _ => ?_
  exact Keeps.bind hi fun _ => keeps_ofReading.bind fun _ => keeps_pure

/-- Detecting a finding leaves alone what is kept by ids, events and violations. -/
theorem keeps_detect_of {p : Policy} {r : Rule} {d : Dependency} {o : ConditionOutcome}
    {c : EvaluationContext} (hi : ∀ s ids, I s → I { s with ids })
    (he : ∀ s events, I s → I { s with events }) (hv : ∀ s violations, I s → I { s with violations }) :
    Keeps I (detect p r d o c now) := by
  refine keeps_detect (fun s hs => ⟨hi s _ hs, fun _ _ => trivial⟩) (fun _ _ s hs => ⟨?_, fun _ _ => trivial⟩)
    fun v => yields_findOrAdd _ fun s found t hs _ => ⟨hv s t hs, trivial⟩
  rw [outcome_publish]
  split
  · exact hs
  · exact he s _ hs

/-- A finding carries the rule that it is of, whether it is new or was on record before. -/
theorem detect_rule (p : Policy) (r : Rule) (d : Dependency) (outcome : ConditionOutcome)
    (c : EvaluationContext) :
    Yields (fun _ => True) (detect p r d outcome c now) fun v => v.details.rule = r := by
  refine .bind (F := fun v => v.details.rule = r) ?_ fun v hv => ?_
  · refine .bind (keeps_true _) fun topic _ => .bind (keeps_true _) fun _ _ => .bind (keeps_true _) fun id _ => ?_
    exact .bind (keeps_true _) fun metadata _ => .pure rfl
  · refine record_yields (fun _ _ => keeps_true _) fun _ => yields_findOrAdd _ fun s found t _ hg => ⟨trivial, ?_⟩
    rcases Store.getOrAdd_record hg with hr | ⟨old, hr⟩
    · rw [hr, hv]
    · rw [hr, ← hv]
      unfold Finding.seenAgain
      split <;> rfl

end Findings

/-! ## One evaluation -/

/-- The evaluation reports what it should on the policies that it takes: each finding is related to
its rule by `R`. -/
structure Reports (R : Policy × Rule → Violation → Prop) (d : Dependency) (data : EvaluationData)
    (now : Timestamp) (taken : List Policy) (e : Evaluation) : Prop where
  policyIds : e.policyIds = taken.map (·.id)
  rulesEvaluated : e.rulesEvaluated = .int (enabledRules taken).length
  exceptions : e.exceptions = (enabledRules taken).filterMap fun pr => pr.1.waiver d now pr.2
  violations : List.Forall₂ R (blockingRules d data now (enabledRules taken)) e.violations
  warnings : List.Forall₂ R (warningRules d data now (enabledRules taken)) e.warnings
  rulesTriggered : e.rulesTriggered = .int (e.violations.length + e.warnings.length)
  status : e.status = .ofFindings e.violations e.warnings e.exceptions
  folded : ∀ pr ∈ enabledRules taken, pr.1.waiver d now pr.2 = none → Folds data pr.2

section Evaluate

variable {d : Dependency} {policies : List Policy} {c : EvaluationContext} {s s' : GateState}
  {e : Evaluation}

/-- The time of an evaluation: what its context says, or else the clock. -/
def evaluationTime (c : EvaluationContext) (s : GateState) : Timestamp := c.now.getD s.now

theorem evaluateDependency_eq (d : Dependency) (policies : List Policy) (c : EvaluationContext) :
    evaluateDependency d policies c = do
      let s ← get
      let data ← ofReading (EvaluationData.of d c (evaluationTime c s))
      let order ← ofReading (Policy.active policies)
      let tally ← order.foldlM (checkPolicy d data c (evaluationTime c s)) .empty
      return tally.evaluation d (evaluationTime c s) :=
  rfl

theorem mem_of_active {order : List Policy} (h : Policy.active policies = .ok order) :
    ∀ p ∈ order, p ∈ policies :=
  fun _ hp => List.mem_of_mem_filter ((Policy.active_perm h).mem_iff.mp hp)

/-- An evaluation keeps what detecting its findings keeps. -/
theorem keeps_evaluateDependency {I : GateState → Prop}
    (hd : ∀ p ∈ policies, ∀ r ∈ p.rules, ∀ outcome now, Keeps I (detect p r d outcome c now)) :
    Keeps I (evaluateDependency d policies c) := by
  rw [evaluateDependency_eq]
  refine keeps_get.bind fun s => keeps_ofReading.bind fun data => ?_
  refine Yields.bind (.ofReading fun _ => id) fun order horder => ?_
  have hfold : Yields I (order.foldlM (checkPolicy d data c (evaluationTime c s)) .empty) _ :=
    checkPolicies_yields (R := fun _ _ => True) fun p hp r hr outcome =>
      hd p (mem_of_active horder p hp) r hr outcome _
  exact hfold.keeps.bind fun t => keeps_pure

/-- Where storing the findings of the rules yields `R`, an evaluation that returns reports with `R` on
the policies in scope, in the order of their priorities. -/
theorem evaluateDependency_reports {I : GateState → Prop} {R : Policy × Rule → Violation → Prop}
    (hd : ∀ p ∈ policies, ∀ r ∈ p.rules, ∀ outcome,
      Yields I (detect p r d outcome c (evaluationTime c s)) (R (p, r)))
    (hs : I s) (h : Returns (evaluateDependency d policies c) s e s') :
    I s' ∧ ∃ data order, EvaluationData.of d c (evaluationTime c s) = .ok data ∧
      Policy.active policies = .ok order ∧
      Reports R d data (evaluationTime c s) (order.filter (·.inScope d c)) e := by
  rw [evaluateDependency_eq] at h
  obtain ⟨_, _, hg, h₁⟩ := returns_bind.mp h
  obtain ⟨rfl, rfl⟩ := returns_get.mp hg
  obtain ⟨data, _, hr, h₂⟩ := returns_bind.mp h₁
  obtain ⟨hdata, rfl⟩ := returns_ofReading.mp hr
  obtain ⟨order, _, hr, h₃⟩ := returns_bind.mp h₂
  obtain ⟨horder, rfl⟩ := returns_ofReading.mp hr
  obtain ⟨t, _, ht, h₄⟩ := returns_bind.mp h₃
  obtain ⟨rfl, rfl⟩ := returns_pure.mp h₄
  obtain ⟨hI, hR⟩ := (checkPolicies_yields fun p hp => hd p (mem_of_active horder p hp)).returns hs ht
  refine ⟨hI, data, order, hdata, horder, hR.policyIds, ?_, hR.exceptions, hR.violations, hR.warnings, ?_, rfl,
    hR.folded⟩
  · rw [← hR.rulesEvaluated]
    rfl
  · simp [Tally.evaluation, hR.rulesTriggered]

/-- **An evaluation is its specification.** Of the policies that take effect, those in scope are
taken, sorted by priority: descending, and ties as given, where their priorities form an order with ties. Each
of their enabled rules is counted; it gives the first exception that sets it aside, or one finding if
its conditions fold to true, among the violations if it blocks and among the warnings if not. The
status is the first of violation, warning and exception of which there is one. -/
theorem evaluateDependency_specified (h : Returns (evaluateDependency d policies c) s e s') :
    ∃ order data, sortDescending (·.priority) (policies.filter Policy.takesEffect) = .ok order ∧
      order.Perm (policies.filter Policy.takesEffect) ∧
      (Value.Ranked ((policies.filter Policy.takesEffect).map (·.priority)) →
        Policy.RankedOrder (policies.filter Policy.takesEffect) order) ∧
      EvaluationData.of d c (evaluationTime c s) = .ok data ∧
      let now := evaluationTime c s
      let taken := order.filter (·.inScope d c)
      let rules := enabledRules taken
      e.policyIds = taken.map (·.id) ∧
      e.rulesEvaluated = .int rules.length ∧
      e.exceptions = rules.filterMap (fun pr => pr.1.waiver d now pr.2) ∧
      (∀ pr ∈ rules, pr.1.waiver d now pr.2 = none → Folds data pr.2) ∧
      e.violations.map (·.details.rule) = (blockingRules d data now rules).map (·.2) ∧
      e.warnings.map (·.details.rule) = (warningRules d data now rules).map (·.2) ∧
      e.rulesTriggered = .int (e.violations.length + e.warnings.length) ∧
      (e.violations ≠ [] → e.status = .violation) ∧
      (e.violations = [] → e.warnings ≠ [] → e.status = .warning) ∧
      (e.violations = [] → e.warnings = [] → e.exceptions ≠ [] → e.status = .exception) ∧
      (e.violations = [] → e.warnings = [] → e.exceptions = [] → e.status = .compliant) := by
  obtain ⟨-, data, order, hdata, horder, hR⟩ := evaluateDependency_reports
    (R := fun pr v => v.details.rule = pr.2) (fun p _ r _ outcome => detect_rule p r d outcome c) trivial h
  refine ⟨order, data, Policy.active_sorted horder, Policy.active_perm horder, Policy.active_ranked horder, hdata,
    hR.policyIds, hR.rulesEvaluated, hR.exceptions, hR.folded, ?_, ?_, hR.rulesTriggered, ?_⟩
  · rw [← List.forall₂_eq_eq_eq, List.forall₂_map_left_iff, List.forall₂_map_right_iff]
    exact hR.violations.flip
  · rw [← List.forall₂_eq_eq_eq, List.forall₂_map_left_iff, List.forall₂_map_right_iff]
    exact hR.warnings.flip
  · rw [hR.status]
    refine ⟨fun hv => ?_, fun hv hw => ?_, fun hv hw he => ?_, fun hv hw he => ?_⟩ <;>
      simp [EvaluationStatus.ofFindings, *]

end Evaluate

section Sample

open Sample

/-- One policy with one rule that warns: the one warning is of that rule. -/
theorem evaluateDependency_specified_single :
    ∃ (e : Evaluation) (s' : GateState) (order : List Policy) (data : EvaluationData),
      Returns (evaluateDependency (dependency "lib") [policy "t" "p" [rule "r" (absent "x")] []] .empty)
        gate e s' ∧
      e.warnings.length = 1 ∧
      EvaluationData.of (dependency "lib") .empty moment = .ok data ∧
      e.warnings.map (·.details.rule) =
        (warningRules (dependency "lib") data moment
          (enabledRules (order.filter (·.inScope (dependency "lib") .empty)))).map (·.2) := by
  obtain ⟨e, s', hr, hw⟩ : ∃ e s', Returns (evaluateDependency (dependency "lib")
      [policy "t" "p" [rule "r" (absent "x")] []] .empty) gate e s' ∧ e.warnings.length = 1 := by
    rw [evaluateDependency_eq, Policy.active_singleton rfl]
    exact ⟨_, _, rfl, rfl⟩
  obtain ⟨order, data, -, -, -, hdata, -, -, -, -, -, hwarn, -⟩ := evaluateDependency_specified hr
  exact ⟨e, s', order, data, hr, hw, hdata, hwarn⟩

/-- Three policies without rules, the second of which has a priority that is no number. -/
def unranked : List Policy :=
  [{ policy "t" "1" [] [] with priority := .int 1 }, { policy "t" "2" [] [] with priority := .float (0.0 / 0.0) },
    { policy "t" "3" [] [] with priority := .int 2 }]

/-- Where a priority is no number, the policies are evaluated in an order in which their priorities do not descend. -/
theorem evaluateDependency_undescending :
    ∃ (e : Evaluation) (s' : GateState), Returns (evaluateDependency (dependency "lib") unranked .empty) gate e s' ∧
      ∀ order : List Policy, order.Perm (unranked.filter Policy.takesEffect) →
        e.policyIds = (order.filter (·.inScope (dependency "lib") .empty)).map (·.id) →
        ¬ order.Pairwise fun p q => ¬ Value.Below p.priority q.priority := by
  have hids : ((outcome (evaluateDependency (dependency "lib") unranked .empty) gate).1.toOption.any fun e =>
      e.policyIds.map Value.rendered == ["1", "2", "3"]) = true := by decide +kernel
  rcases ho : outcome (evaluateDependency (dependency "lib") unranked .empty) gate with ⟨f | e, s'⟩
  · rw [ho] at hids
    cases hids
  rw [ho] at hids
  have hids : e.policyIds.map Value.rendered = ["1", "2", "3"] := beq_iff_eq.mp hids
  refine ⟨e, s', ho, fun order hperm heq hdescends => ?_⟩
  have hmem : ∀ p ∈ order, p ∈ unranked := fun p hp => List.mem_of_mem_filter (hperm.mem_iff.mp hp)
  have hscope : ∀ p ∈ unranked, p.inScope (dependency "lib") .empty = true := by decide +kernel
  have htexts : order.map (·.id.rendered) = ["1", "2", "3"] := by
    rwa [heq, List.filter_eq_self.mpr fun p hp => hscope p (hmem p hp), List.map_map] at hids
  have hone : ∀ p ∈ unranked, p.id.rendered = "1" → p.priority = .int 1 := by
    simp [unranked, policy, Value.rendered]
  have hthree : ∀ p ∈ unranked, p.id.rendered = "3" → p.priority = .int 2 := by
    simp [unranked, policy, Value.rendered]
  obtain ⟨x, y, z, rfl⟩ := List.length_eq_three.mp (by simpa using congrArg List.length htexts)
  simp only [List.map_cons, List.map_nil, List.cons.injEq, and_true] at htexts
  obtain ⟨hx, -, hz⟩ := htexts
  refine (List.pairwise_cons.mp hdescends).1 z (by simp) ?_
  rw [hone x (hmem x (by simp)) hx, hthree z (hmem z (by simp)) hz]
  decide +kernel

end Sample

end Gate
end SupplyGate
