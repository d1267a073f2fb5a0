import SupplyGate.Proofs.Gate.Actions
import SupplyGate.Proofs.Risk.Factors
import SupplyGate.Proofs.Risk.Mitigations
import SupplyGate.Proofs.Time.Timestamps

/-!
# What an assessment says

Whatever the context and the weights of a tenant are, an assessment that is computed is `Sound`: its scores
are bounded and agree with its level, it is valid for so many days, and its factors and mitigations are those
of its vulnerabilities. It has an id of its own, and is not yet linked to others (`Unlinked`).
-/

namespace SupplyGate

/-- The scores of a level: from its threshold up to that of the next one. -/
def RiskLevel.Spans : RiskLevel → Int → Prop
  | .critical, n => 90 ≤ n
  | .high, n => 70 ≤ n ∧ n < 90
  | .medium, n => 50 ≤ n ∧ n < 70
  | .low, n => 30 ≤ n ∧ n < 50
  | .minimal, n => n < 30

/-- The scores of an assessment: a whole overall score that its level spans, and a whole priority that is no
lower, both within `0 … 100`. -/
structure Assessment.Scored (a : Assessment) (n p : Int) : Prop where
  overall : a.overall = .int n
  nonneg : 0 ≤ n
  level : a.level.Spans n
  priority : a.priority = .int p
  raised : n ≤ p
  bounded : p ≤ 100

/-- A sound assessment by a service whose assessments are valid for so many days. -/
structure Assessment.Sound (validityDays : Int) (a : Assessment) : Prop where
  scored : ∃ n p, a.Scored n p
  valid : ∃ t u, a.assessedAt = some t ∧ a.validUntil = some u ∧
    u.instant = t.instant + validityDays * Timestamp.dayLength ∧ u.offset = t.offset
  factors : FactorsOf a.vulnerabilities a.factors
  mitigations : Suggested a.vulnerabilities a.level a.mitigations

/-- Links to other assessments do not matter. -/
theorem Assessment.Sound.linked {days : Int} {a : Assessment} (h : a.Sound days) (supersedes supersededBy : Value)
    (lastUpdated : Option Timestamp) : { a with supersedes, supersededBy, lastUpdated }.Sound days := by
  obtain ⟨n, p, hscored⟩ := h.scored
  refine ⟨⟨n, p, ?_⟩, h.valid, h.factors, h.mitigations⟩
  exact ⟨hscored.overall, hscored.nonneg, hscored.level, hscored.priority, hscored.raised, hscored.bounded⟩

/-- An assessment with an id that was given out, and without links to others. -/
structure Assessment.Unlinked (a : Assessment) : Prop where
  id : ∃ t, a.id = .str t
  supersedes : a.supersedes = .null
  supersededBy : a.supersededBy = .null

/-! ## Scores -/

theorem RiskLevel.spans_ofInt (n : Int) : (RiskLevel.ofInt n).Spans n := by
  unfold ofInt
  split
  · assumption
  split
  · constructor <;> omega
  split
  · constructor <;> omega
  split
  · constructor <;> omega
  · change n < 30
    omega

theorem boundScore_mem (n : Int) : 0 ≤ boundScore n ∧ boundScore n ≤ 100 := by
  unfold boundScore
  omega

theorem overallScore_mem {business technical exploitability environmental : Value} {n : Int}
    (h : overallScore business technical exploitability environmental = .ok n) : 0 ≤ n ∧ n ≤ 100 := by
  unfold overallScore at h
  simp only [Reading.bind_eq_ok] at h
  obtain ⟨_, -, _, -, _, -, _, -, _, -, _, -, _, -, rounded, -, hn⟩ := h
  obtain rfl := Reading.pure_eq_ok.mp hn
  exact boundScore_mem rounded

theorem BusinessContext.bonus_nonneg (c : BusinessContext) : 0 ≤ c.bonus := by
  have henvironment : 0 ≤ c.environment.bonus := by
    cases c.environment <;> decide
  have hcriticality : 0 ≤ c.criticality.bonus := by
    cases c.criticality <;> decide
  unfold bonus
  split <;> omega

theorem priorityScore_mem {n : Int} (hn : n ≤ 100) (c : BusinessContext) :
    n ≤ priorityScore n c ∧ priorityScore n c ≤ 100 := by
  have hbonus := c.bonus_nonneg
  unfold priorityScore boundScore
  omega

/-! ## Computing -/

namespace Gate

variable {s : GateState}

/-- An assessment that is computed is sound and unlinked, and computing it takes ids only. -/
theorem yields_compute (scoring : Scoring) (d : Dependency) (vs : List Vulnerability) (tenantId : Value)
    (given : Option BusinessContext) (assessedBy : Value) :
    Yields (Took s) (compute scoring d vs tenantId given assessedBy) fun a =>
      a.Sound scoring.validityDays ∧ a.Unlinked := by
  have hcontext : Keeps (Took s) (getContext tenantId) := keeps_find.bind fun _ => keeps_pure
  have hcriteria : Keeps (Took s) (getCriteria tenantId) := keeps_find.bind fun _ => keeps_pure
  have hread : ∀ r : Reading Value, Keeps (Took s) (ofReading r) := fun _ => keeps_ofReading
  unfold compute
  extract_lets inContext
  -- whichever context it is in, the given one or that of the tenant
  have hinContext : ∀ c, Yields (Took s) (inContext c) fun a => a.Sound scoring.validityDays ∧ a.Unlinked := by
    intro c
    refine Yields.bind hcriteria fun criteria _ => Yields.bind keeps_clock fun now _ => ?_
    refine (yields_ofNumbering (gives_allFactors criteria now d vs c _) s).bind fun factors hfactors => ?_
    refine Yields.bind (hread _) fun business _ => Yields.bind (hread _) fun technical _ => ?_
    refine Yields.bind (hread _) fun exploitability _ => Yields.bind (hread _) fun environmental _ => ?_
    refine Yields.bind (.ofReading fun _ h => overallScore_mem h) fun overall ⟨hlow, hhigh⟩ => ?_
    refine (yields_ofNumbering (.freshText .assessment) s).bind fun id hid => ?_
    refine (yields_ofNumbering (gives_mitigations d vs c _) s).bind fun mitigations hmitigations => ?_
    have hpriority := priorityScore_mem hhigh c
    dsimp only
    split
    · next until_ huntil =>
      refine .pure ⟨⟨?_, ?_, hfactors, hmitigations⟩, hid, rfl, rfl⟩
      · exact ⟨overall, priorityScore overall c, rfl, hlow, RiskLevel.spans_ofInt overall, rfl, hpriority.1, hpriority.2⟩
      · refine ⟨now, until_, rfl, rfl, Timestamp.instant_addDays? huntil, ?_⟩
        rw [(Timestamp.addDays?_eq_some huntil).1]
    · exact .throw
  cases given with
  | some c => exact hinContext c
  | none => exact Yields.bind hcontext fun c _ => hinContext c

end Gate

end SupplyGate
