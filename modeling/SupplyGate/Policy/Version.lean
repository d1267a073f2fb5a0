import SupplyGate.Number.Numeral
import SupplyGate.Value.Read
/-!
Policy versions: three numbers with points between them. Changing the rules of a policy raises the
last one; a part that is missing or no number counts as zero.
-/
namespace SupplyGate.Version

/-- The parts of a text between its points, given the characters of the part so far, last first. -/
def splitParts (part : List Char) : List Char → List String
  | [] => [String.ofList part.reverse]
  | '.' :: rest => String.ofList part.reverse :: splitParts [] rest
  | c :: rest => splitParts (c :: part) rest

/-- The number that a part stands for. A part may be made of digits and still be no number. -/
def partNumber (part : String) : Reading Int :=
  if Text.allDigits part then
    match Number.readInt part with
    | .ok n => .ok n
    | .error .malformed => .error (.notWhole part)
    | .error (.tooLong digits) => .error (.longNumeral digits)
  else .ok 0

/-- The version after a change of the rules. -/
def bumpPatch (version : String) : Reading String := do
  let parts := (splitParts [] version.toList ++ ["0", "0", "0"]).take 3
  match ← parts.mapM partNumber with
  | [major, minor, patch] => return ".".intercalate (← [major, minor, patch + 1].mapM fun n => (Value.int n).text)
  | _ => return version

/-- The version after a change, of a version that is no text. -/
def bump (version : Value) : Reading String :=
  match version.orElse "" with
  | .str s => bumpPatch s
  | v => .error (.noPart v.qualifiedKind "split")

end SupplyGate.Version
