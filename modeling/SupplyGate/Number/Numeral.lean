import SupplyGate.Number.Decimal
import SupplyGate.Text.Class
/-!
Numerals in text. Blanks around a numeral are ignored, its digits may be decimal digits of any
script, and a single low line may stand between two digits. `readInt` reads whole numbers,
`readNumber` also fractions, exponents, infinities and the word for no number.
-/
namespace SupplyGate.Number

/-- A character as a numeral sees it: a decimal digit becomes its ASCII form. -/
def plainDigit (c : Char) : Char :=
  match Text.decimalValue? c with
  | some n => Nat.digitChar n
  | none => c

/-- The low lines of a numeral left out; each has to stand between two digits. -/
def dropSeparators : List Char → Option (List Char)
  | [] => some []
  | ['_'] => none
  | '_' :: _ :: _ => none
  | [c] => some [c]
  | c :: '_' :: d :: rest =>
    if c.isDigit && d.isDigit then (dropSeparators (d :: rest)).map (c :: ·) else none
  | c :: rest => (dropSeparators rest).map (c :: ·)

/-- A leading sign and what follows it. -/
def splitSign : List Char → Bool × List Char
  | '-' :: rest => (true, rest)
  | '+' :: rest => (false, rest)
  | rest => (false, rest)

/-- Why a text is no whole number. -/
inductive NotInt where
  | malformed
  | tooLong (digits : Nat)
  deriving DecidableEq

def readInt (s : String) : Except NotInt Int :=
  let (negative, body) := splitSign ((Text.trimChars s.toList).map plainDigit)
  match dropSeparators body with
  | none => .error .malformed
  | some digits =>
    if digits.isEmpty || !digits.all Char.isDigit then .error .malformed
    else if digitLimit < digits.length then .error (.tooLong digits.length)
    else
      let n := digitsValue digits
      .ok (if negative then -n else n)

/-- What a numeral denotes. -/
inductive Numeral where
  | decimal (d : Decimal)
  | infinite (negative : Bool)
  | nan

def Numeral.toFloat : Numeral → Float
  | .decimal d => d.toFloat
  | .infinite negative => nearest negative (twoTo 1024) 1
  | .nan => Float.ofBits (UInt64.ofNat (infinityBits + twoTo 51))

/-- An optional exponent that ends a numeral. -/
def readExponent : List Char → Option Int
  | [] => some 0
  | c :: rest =>
    if c == 'e' || c == 'E' then
      let (negative, digits) := splitSign rest
      if digits.isEmpty || !digits.all Char.isDigit then none
      else some (if negative then -digitsValue digits else digitsValue digits)
    else none

/-- An unsigned decimal numeral: digits with at most one point, at least one digit, and perhaps an
exponent. -/
def readUnsigned (negative : Bool) (cs : List Char) : Option Decimal := do
  let whole := cs.takeWhile Char.isDigit
  let rest := cs.dropWhile Char.isDigit
  let (fraction, rest) := match rest with
    | '.' :: more => (more.takeWhile Char.isDigit, more.dropWhile Char.isDigit)
    | _ => ([], rest)
  if whole.isEmpty && fraction.isEmpty then none
  else
    let exponent ← readExponent rest
    some ⟨negative, digitsValue (whole ++ fraction), exponent - fraction.length⟩

/-- A number in decimal notation. -/
def readNumber (s : String) : Option Numeral := do
  let cs ← dropSeparators ((Text.trimChars s.toList).map plainDigit)
  let (negative, body) := splitSign cs
  let word := String.ofList (body.map Char.toLower)
  if word == "inf" || word == "infinity" then some (.infinite negative)
  else if word == "nan" then some .nan
  else (readUnsigned negative body).map .decimal

end SupplyGate.Number
