import SupplyGate.Policy.UpdateStrategy
import SupplyGate.Proofs.Value.Reading

/-!
# Which approval rule lets a fix proceed

An approval rule lets a fix of a dependency proceed when it is meant for the environment, the dependency
is not too risky, and its condition is met (`approves_iff`). Where the rules can be read, the search for
one that does finds the first of them (`firstApproving_ok`). Of the dependency only its id counts, and
whether it is one for development (`Lets.congr`).
-/

namespace SupplyGate

/-- What the condition of an approval rule asks of a fix by some strategy. -/
def ApprovalCondition.Met (strategy : String) (d : Dependency) (c : EvaluationContext) : ApprovalCondition → Prop
  | .patchSecurity => strategy = "UPDATE" ∧ ∃ v ∈ c.vulnerabilitiesOf d, v.fixAvailable = true
  | .devDependencies => d.scope = .development
  | .lowRisk => ∃ k, c.riskOf d = some k ∧ (k.level = .low ∨ k.level = .minimal)

namespace ApprovalRule

variable {strategy : String} {d d' : Dependency} {c : EvaluationContext} {r : ApprovalRule} {rules : List ApprovalRule}

/-- A rule lets a fix of a dependency by some strategy proceed. -/
structure Lets (strategy : String) (d : Dependency) (c : EvaluationContext) (r : ApprovalRule) : Prop where
  environment : r.environments = [] ∨ c.environment.elem r.environments = true
  risk : ∀ k, c.riskOf d = some k → k.score.greater r.maxRiskScore = .ok false
  condition : r.condition.Met strategy d c

theorem conditionHolds_iff : r.conditionHolds strategy d c = true ↔ r.condition.Met strategy d c := by
  unfold conditionHolds ApprovalCondition.Met
  cases r.condition with
  | patchSecurity => simp
  | devDependencies => simp
  | lowRisk => cases c.riskOf d <;> simp

/-- The rule is meant for the environment of the run. -/
theorem environment_iff :
    (!r.environments.isEmpty && !c.environment.elem r.environments) = false ↔
      r.environments = [] ∨ c.environment.elem r.environments = true := by
  cases r.environments <;> simp

theorem approves_iff : r.approves strategy d c = .ok true ↔ r.Lets strategy d c := by
  unfold approves
  by_cases he : (!r.environments.isEmpty && !c.environment.elem r.environments) = true
  · have hout : ¬ r.Lets strategy d c := fun h => by
      rw [environment_iff.mpr h.environment] at he
      cases he
    simp [he, hout]
  · have hin := environment_iff.mp (Bool.eq_false_iff.mpr he)
    simp only [he, if_false, Bool.false_eq_true]
    cases hk : c.riskOf d with
    | none =>
      constructor
      · intro h
        have hcond : r.conditionHolds strategy d c = true := by simpa using h
        exact ⟨hin, fun k hk' => by simp [hk] at hk', conditionHolds_iff.mp hcond⟩
      · intro h
        simpa using conditionHolds_iff.mpr h.condition
    | some k =>
      constructor
      · intro h
        obtain ⟨tooRisky, hrisk, h⟩ := Reading.bind_eq_ok.mp h
        obtain ⟨hlow, hcond⟩ : tooRisky = false ∧ r.conditionHolds strategy d c = true := by simpa using h
        subst hlow
        refine ⟨hin, fun k' hk' => ?_, conditionHolds_iff.mp hcond⟩
        obtain rfl : k = k' := by simpa [hk] using hk'
        exact hrisk
      · intro h
        refine Reading.bind_eq_ok.mpr ⟨false, h.risk k hk, ?_⟩
        simpa using conditionHolds_iff.mpr h.condition

/-- Of some rules this is the first that lets a fix proceed, or none of them does. -/
def FirstToLet (strategy : String) (d : Dependency) (c : EvaluationContext) (rules : List ApprovalRule) :
    Option ApprovalRule → Prop
  | some r => ∃ before after, rules = before ++ r :: after ∧ r.Lets strategy d c ∧
      ∀ q ∈ before, ¬ q.Lets strategy d c
  | none => ∀ q ∈ rules, ¬ q.Lets strategy d c

theorem FirstToLet.cons {q : ApprovalRule} {o : Option ApprovalRule} (hq : ¬ q.Lets strategy d c)
    (h : FirstToLet strategy d c rules o) : FirstToLet strategy d c (q :: rules) o := by
  cases o with
  | none => exact List.forall_mem_cons.mpr ⟨hq, h⟩
  | some r =>
    obtain ⟨before, after, rfl, hr, hbefore⟩ := h
    exact ⟨q :: before, after, rfl, hr, List.forall_mem_cons.mpr ⟨hq, hbefore⟩⟩

theorem firstApproving_ok : ∀ {rules : List ApprovalRule} {o : Option ApprovalRule},
    firstApproving strategy d c rules = .ok o → FirstToLet strategy d c rules o
  | [], o, h => by
    cases h
    exact fun q hq => nomatch hq
  | q :: rules, o, h => by
    obtain ⟨approves, hq, h⟩ := Reading.bind_eq_ok.mp h
    cases approves with
    | true =>
      cases h
      exact ⟨[], rules, rfl, approves_iff.mp hq, fun q hq => nomatch hq⟩
    | false =>
      have hnot : ¬ q.Lets strategy d c := fun hlets => by
        rw [approves_iff.mpr hlets] at hq
        cases hq
      exact (firstApproving_ok h).cons hnot

/-- Which rule is the first to let an update through, if there is one, is determined. -/
theorem FirstToLet.unique : ∀ {rules : List ApprovalRule} {o o' : Option ApprovalRule},
    FirstToLet strategy d c rules o → FirstToLet strategy d c rules o' → o = o'
  | rules, none, none, _, _ => rfl
  | rules, none, some r, h, ⟨before, after, he, hr, _⟩ => absurd hr (h r (by simp [he]))
  | rules, some r, none, ⟨before, after, he, hr, _⟩, h => absurd hr (h r (by simp [he]))
  | rules, some r, some r', ⟨before, after, he, hr, hbefore⟩, ⟨before', after', he', hr', hbefore'⟩ => by
    -- Whichever of the two came later would have the other one before it.
    have heq := he.symm.trans he'
    rcases List.append_eq_append_iff.mp heq with ⟨l, rfl, hl⟩ | ⟨l, rfl, hl⟩
    · cases l with
      | nil => simpa using (List.cons.inj hl).1
      | cons q l =>
        obtain rfl := (List.cons.inj hl).1
        exact absurd hr (hbefore' r (by simp))
    · cases l with
      | nil => simpa using (List.cons.inj hl).1.symm
      | cons q l =>
        obtain rfl := (List.cons.inj hl).1
        exact absurd hr' (hbefore r' (by simp))

/-- Of a dependency its id counts, and whether it is one for development. -/
theorem Lets.congr (hid : d'.ident = d.ident) (hscope : d'.scope = .development ↔ d.scope = .development) :
    r.Lets strategy d' c ↔ r.Lets strategy d c := by
  have hrisk : c.riskOf d' = c.riskOf d := by
    unfold EvaluationContext.riskOf
    rw [hid]
  have hvulnerabilities : c.vulnerabilitiesOf d' = c.vulnerabilitiesOf d := by
    unfold EvaluationContext.vulnerabilitiesOf
    rw [hid]
  have hmet : r.condition.Met strategy d' c ↔ r.condition.Met strategy d c := by
    unfold ApprovalCondition.Met
    cases r.condition with
    | patchSecurity => simp only [hvulnerabilities]
    | devDependencies => exact hscope
    | lowRisk => simp only [hrisk]
  constructor
  · rintro ⟨he, hr, hm⟩
    exact ⟨he, hrisk ▸ hr, hmet.mp hm⟩
  · rintro ⟨he, hr, hm⟩
    exact ⟨he, hrisk ▸ hr, hmet.mpr hm⟩

theorem FirstToLet.congr {o : Option ApprovalRule} (hid : d'.ident = d.ident)
    (hscope : d'.scope = .development ↔ d.scope = .development) :
    FirstToLet strategy d' c rules o ↔ FirstToLet strategy d c rules o := by
  have hlets : ∀ r : ApprovalRule, r.Lets strategy d' c ↔ r.Lets strategy d c := fun r => Lets.congr hid hscope
  cases o with
  | none => simp only [FirstToLet, hlets]
  | some r => simp only [FirstToLet, hlets]

end ApprovalRule
end SupplyGate
