import SupplyGate.Text.CaseTable
import SupplyGate.Text.Ranges
/-!
Upper and lower case of whole texts. A character may become several (`ß` is `SS` in upper case),
and a capital sigma that ends a word becomes the final small sigma.
-/
namespace SupplyGate.Text

/-- The code point that a table of runs gives for `n`. -/
def shift (runs : List (Nat × Nat × Nat × Nat)) (n : Nat) : Nat :=
  match runs.find? fun (first, last, step, _) => first ≤ n && n ≤ last && (n - first) % step == 0 with
  | some (first, _, _, target) => target + n - first
  | none => n

/-- A character in another case: an expansion if there is one, else its run. -/
def mapChar (expansions : List (Nat × List Nat)) (runs : List (Nat × Nat × Nat × Nat)) (c : Char) :
    List Char :=
  match expansions.lookup c.toNat with
  | some codes => codes.map Char.ofNat
  | none => [Char.ofNat (shift runs c.toNat)]

def upper (s : String) : String :=
  String.ofList (s.toList.flatMap fun c =>
    if c.toNat < 128 then [c.toUpper] else mapChar upperExpansions upperRuns c)

/-- The next character that matters for word ends is cased. -/
def casedNext (cs : List Char) : Bool :=
  match cs.dropWhile caseIgnorableRanges.holds with
  | [] => false
  | c :: _ => casedRanges.holds c

/-- Lower case, given the characters before the text, nearest first. -/
def lowerFrom (before : List Char) : List Char → List Char
  | [] => []
  | c :: rest =>
    let here :=
      if c.toNat < 128 then [c.toLower]
      else if c == 'Σ' then [if casedNext before && !casedNext rest then 'ς' else 'σ']
      else mapChar lowerExpansions lowerRuns c
    here ++ lowerFrom (c :: before) rest

def lower (s : String) : String := String.ofList (lowerFrom [] s.toList)

/-- The lower-case form of a character, or the first character of it. -/
def foldChar (c : Char) : Char := ((mapChar lowerExpansions lowerRuns c).head?).getD c

/-- The characters, other than itself, whose lower-case form is or begins with this one. -/
def capitals (c : Char) : List Char :=
  let expanded := lowerExpansions.filter fun (_, codes) => codes.head? == some c.toNat
  let moved := lowerRuns.filter fun (first, last, step, target) =>
    target ≤ c.toNat && first + (c.toNat - target) ≤ last && (c.toNat - target) % step == 0
  expanded.map (fun (n, _) => Char.ofNat n) ++
    moved.map fun (first, _, _, target) => Char.ofNat (first + (c.toNat - target))

/-- A character in every case: the lower-case form, those that share its upper-case form, and what has
one of them as its lower-case form. -/
def caseForms (c : Char) : List Char :=
  let low := foldChar c
  let twins := ((sameCapital.find? (·.contains low.toNat)).getD []).map Char.ofNat
  let lows := if twins.isEmpty then [low] else twins
  lows ++ lows.flatMap capitals

end SupplyGate.Text
