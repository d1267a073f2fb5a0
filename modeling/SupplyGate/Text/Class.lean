import SupplyGate.Text.Ranges
/-!
Character classes of document text: blanks, decimal digits, digits, word characters and printable
characters, over the whole Unicode range. `trim` removes blanks at both ends of a text, and
`contains` finds one text inside another.
-/
namespace SupplyGate.Text

/-- White space. -/
def isBlank (c : Char) : Bool := blankRanges.holds c

/-- The value of a decimal digit of any script. -/
def decimalValue? (c : Char) : Option Nat :=
  (decimalRanges.find? fun (lo, hi) => lo ≤ c.toNat && c.toNat ≤ hi).map fun (lo, _) =>
    (c.toNat - lo) % 10

/-- A decimal digit of any script. -/
def isDecimal (c : Char) : Bool := (decimalValue? c).isSome

/-- A digit: a decimal digit or a digit in another shape, such as a superscript. -/
def isDigit (c : Char) : Bool := isDecimal c || otherDigitRanges.holds c

/-- A letter, a number or the low line. -/
def isWord (c : Char) : Bool := c == '_' || wordRanges.holds c

/-- A character that is shown as itself in quoted text. -/
def isPrintable (c : Char) : Bool := !unprintableRanges.holds c

/-- A character list without the blanks at both ends. -/
def trimChars (cs : List Char) : List Char :=
  ((cs.dropWhile isBlank).reverse.dropWhile isBlank).reverse

/-- A text without the blanks at both ends. -/
def trim (s : String) : String := String.ofList (trimChars s.toList)

/-- A text is made of digits only, and has one. -/
def allDigits (s : String) : Bool := !s.toList.isEmpty && s.toList.all isDigit

/-- Some consecutive characters of a list are these. -/
def standsIn (part : List Char) : List Char → Bool
  | [] => part.isEmpty
  | c :: rest => part.isPrefixOf (c :: rest) || standsIn part rest

/-- A text stands somewhere inside another one. -/
def contains (whole part : String) : Bool := standsIn part.toList whole.toList

theorem standsIn_iff {part whole : List Char} : standsIn part whole = true ↔ part <:+: whole := by
  induction whole with
  | nil => simp [standsIn]
  | cons c rest ih => simp [standsIn, ih, List.infix_cons_iff]

theorem decimalValue?_lt {c : Char} {n : Nat} (h : decimalValue? c = some n) : n < 10 := by
  obtain ⟨⟨lo, hi⟩, _, rfl⟩ := Option.map_eq_some_iff.1 h
  exact Nat.mod_lt _ (by decide)

end SupplyGate.Text
