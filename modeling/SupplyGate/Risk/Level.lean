import SupplyGate.Value.Arithmetic
/-!
Risk levels: five bands of the score, from 90, 70, 50 and 30 up.
-/
namespace SupplyGate

/-- A band of risk scores, the highest first. -/
inductive RiskLevel where
  | critical
  | high
  | medium
  | low
  | minimal
  deriving DecidableEq, Repr

namespace RiskLevel

def toText : RiskLevel → String
  | .critical => "CRITICAL"
  | .high => "HIGH"
  | .medium => "MEDIUM"
  | .low => "LOW"
  | .minimal => "MINIMAL"

instance : Scale RiskLevel := ⟨"RiskLevel", [.critical, .high, .medium, .low, .minimal], toText⟩

def ofScore (score : Value) : Reading RiskLevel := do
  if ← score.atLeast (.int 90) then return .critical
  if ← score.atLeast (.int 70) then return .high
  if ← score.atLeast (.int 50) then return .medium
  if ← score.atLeast (.int 30) then return .low
  return .minimal

/-- The level of a whole score. -/
def ofInt (score : Int) : RiskLevel :=
  if 90 ≤ score then .critical
  else if 70 ≤ score then .high
  else if 50 ≤ score then .medium
  else if 30 ≤ score then .low
  else .minimal

/-- The coloured circle of a level. -/
def semaphore : RiskLevel → String
  | .critical => "🔴"
  | .high => "🟠"
  | .medium => "🟡"
  | .low => "🟢"
  | .minimal => "🟢"

/-- What a level asks for. -/
def description : RiskLevel → String
  | .critical => "Immediate risk - remediation required"
  | .high => "Elevated risk - remediate in the next cycle"
  | .medium => "Requires active monitoring"
  | .low => "Minor concerns, generally acceptable"
  | .minimal => "No meaningful risk identified"

end RiskLevel
end SupplyGate
