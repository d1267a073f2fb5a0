import SupplyGate.Number.Decimal
import SupplyGate.Risk.Factor
/-!
Scores from `0` to `100`. Factors give weighted means for business impact and technical risk, the
vulnerabilities an exploitability score and the business context an environmental score; the overall
score is their weighted sum rounded half up, and the priority adds bonuses for what is at stake.
-/
namespace SupplyGate

/-- The mean of factor scores by weight, or zero without weight. -/
def weightedMean (factors : List RiskFactor) : Reading Value := do
  let total ← Value.sum (factors.map (·.weight))
  if ← total.atMost (.int 0) then return .float 0.0
  let scores ← Value.sum (factors.map (·.weightedScore))
  (← scores.div total).clamp

/-- The label under which a vulnerability's exploitability is weighted. -/
def exploitabilityLabel (v : Vulnerability) : Reading String :=
  match v.exploitability.orElse "not_defined" with
  | .str s => .ok (Text.lower s)
  | w => .error (.noPart w.qualifiedKind "lower")

/-- The larger of the best exploitability so far and that of one more vulnerability. -/
def betterExploitability (criteria : Criteria) (best : Value) (v : Vulnerability) :
    Reading Value := do
  let label ← exploitabilityLabel v
  let score ← (criteria.exploitability.weight label (.float 1.0)).mul (.int 50)
  return if ← score.greater best then score else best

/-- How exploitable the worst vulnerability is. -/
def exploitabilityScore (vulnerabilities : List Vulnerability) (criteria : Criteria) :
    Reading Value := do
  let best ← vulnerabilities.foldlM (betterExploitability criteria) (.float 0.0)
  return if ← best.less (.float 100.0) then best else .float 100.0

/-- How exposed the environment and the data are. -/
def environmentalScore (c : BusinessContext) (criteria : Criteria) : Reading Value := do
  let multiplier :=
    criteria.environmental.weight (Text.lower c.environment.toText) (.float 1.0)
  let share ← (Value.int c.dataClass.score.1).div (.int 100)
  (← (← multiplier.add share).mul (.int 50)).clamp

/-- A number rounded half up to an integer. The number is written before it is rounded. -/
def roundHalfUp (v : Value) : Reading Int := do
  let text ← v.text
  let decimal : Number.Decimal ← match v with
    | .int n => pure ⟨n < 0, n.natAbs, 0⟩
    | .float x =>
      match Number.Extended.ofFloat x with
      | .nan => throw .nanRounded
      | .infinite _ => throw .tooManyDigits
      | .finite _ => pure (.ofFloat x)
    | _ =>
      match Number.readNumber text with
      | some (.decimal d) => pure d
      | some .nan => throw .nanRounded
      | _ => throw .tooManyDigits
  match decimal.halfUp? with
  | some n => .ok n
  | none => .error .tooManyDigits

/-- An integer bounded to `0 … 100`. -/
def boundScore (n : Int) : Int := max 0 (min 100 n)

/-- The shares of the four scores in the overall score. -/
def businessShare : Value := .float 0.25
def technicalShare : Value := .float 0.35
def exploitabilityShare : Value := .float 0.25
def environmentalShare : Value := .float 0.15

/-- The overall score: the weighted sum of the four scores, rounded and bounded. -/
def overallScore (business technical exploitability environmental : Value) : Reading Int := do
  let b ← business.mul businessShare
  let t ← technical.mul technicalShare
  let sum ← b.add t
  let x ← exploitability.mul exploitabilityShare
  let sum ← sum.add x
  let e ← environmental.mul environmentalShare
  let sum ← sum.add e
  return boundScore (← roundHalfUp sum)

/-- What the environment adds to a priority. -/
def Environment.bonus : Environment → Int
  | .production => 20
  | .staging => 10
  | _ => 0

/-- What the criticality adds to a priority. -/
def Criticality.bonus : Criticality → Int
  | .critical => 15
  | .high => 10
  | _ => 0

/-- What a business context adds to a priority. -/
def BusinessContext.bonus (c : BusinessContext) : Int :=
  c.environment.bonus + c.criticality.bonus + if c.regulations.isEmpty then 0 else 10

def priorityScore (overall : Int) (c : BusinessContext) : Int := boundScore (overall + c.bonus)

end SupplyGate
