import SupplyGate.Value.Read
/-!
The severity scale shared by vulnerabilities, risk factors and policy rules.
-/
namespace SupplyGate

/-- How severe a finding is, the most severe first. -/
inductive Severity where
  | critical
  | high
  | medium
  | low
  | info
  deriving DecidableEq, Repr

namespace Severity

def toText : Severity → String
  | .critical => "CRITICAL"
  | .high => "HIGH"
  | .medium => "MEDIUM"
  | .low => "LOW"
  | .info => "INFO"

instance : Scale Severity := ⟨"Severity", [.critical, .high, .medium, .low, .info], toText⟩

/-- Position on the scale, higher for more severe. -/
def rank : Severity → Nat
  | .critical => 4
  | .high => 3
  | .medium => 2
  | .low => 1
  | .info => 0

/-- The risk score of a vulnerability of this severity. -/
def score : Severity → Int
  | .critical => 100
  | .high => 75
  | .medium => 50
  | .low => 25
  | .info => 5

/-- The most severe of some severities, the first of equals. -/
def worst : List Severity → Option Severity
  | [] => none
  | s :: rest =>
    match worst rest with
    | some t => some (if s.rank < t.rank then t else s)
    | none => some s

end Severity
end SupplyGate
