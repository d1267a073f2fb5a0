import SupplyGate.Number.Nearest
import SupplyGate.Number.Extended
/-!
Decimal numbers, the decimal text of floats, and rounding half up. `Decimal.ofFloat` has the fewest
digits that read back as the float, and of those the nearest to it. Rounding half up takes a decimal
number to the nearest integer, and one half way between two integers to the one of larger magnitude;
a result of more than `precision` digits is refused.
-/
namespace SupplyGate.Number

/-- The number `± digits * 10 ^ exponent`. -/
structure Decimal where
  negative : Bool
  digits : Nat
  exponent : Int
  deriving DecidableEq, Repr

/-- The exponent `p` with `10 ^ p ≤ num / den < 10 ^ (p + 1)`, for positive arguments. -/
def floorLog10 (num den : Nat) : Int :=
  if den ≤ num then (digitCount (num / den) : Int) - 1
  else -(digitCount ((den + num - 1) / num - 1) : Int)

/-- Numerator and denominator of `num / den / 10 ^ e`. -/
def shiftTen (num den : Nat) (e : Int) : Nat × Nat :=
  if 0 ≤ e then (num, den * tenTo e.toNat) else (num * tenTo (-e).toNat, den)

namespace Decimal

/-- A number of this size is beyond every float, or nearer to zero than every float. -/
def magnitudeLimit : Int := 400

def toFloat (d : Decimal) : Float :=
  let size : Int := digitCount d.digits + d.exponent
  if d.digits = 0 || size < -magnitudeLimit then nearest d.negative 0 1
  else if magnitudeLimit < size then nearest d.negative (twoTo 1024) 1
  else
    let (num, den) := shiftTen d.digits 1 (-d.exponent)
    nearest d.negative num den

/-- Trailing zeros of the digits, moved into the exponent. -/
def stripZeros (digits : Nat) (exponent : Int) : Nat × Int :=
  if h : 0 < digits ∧ digits % 10 = 0 then stripZeros (digits / 10) (exponent + 1)
  else (digits, exponent)
termination_by digits
decreasing_by omega

/-- The decimal number with `count` digits that reads back as the positive float `num / den` and is
nearest to it: of the two neighbours on that grid, one that reads back, and of two the nearer. -/
def onGrid? (x : Float) (num den count : Nat) : Option Decimal :=
  let e := floorLog10 num den - count + 1
  let (a, b) := shiftTen num den e
  let low : Decimal := ⟨false, a / b, e⟩
  let high : Decimal := ⟨false, a / b + 1, e⟩
  match low.toFloat.toBits == x.toBits, high.toFloat.toBits == x.toBits with
  | true, true => some (if roundEven a b = a / b then low else high)
  | true, false => some low
  | false, true => some high
  | false, false => none

/-- The shortest decimal number that reads back as the float with this significand. -/
def shortest (negative : Bool) (m : Nat) (e : Int) : Decimal :=
  if m = 0 then ⟨negative, 0, 0⟩
  else
    let num := m * twoTo e.toNat
    let den := twoTo (-e).toNat
    let found := (List.range 17).findSome? fun k => onGrid? (nearest false num den) num den (k + 1)
    match found with
    | some d =>
      let (digits, exponent) := stripZeros d.digits d.exponent
      ⟨negative, digits, exponent⟩
    | none => ⟨negative, num / den, 0⟩

/-- The shortest decimal text of a finite float, as a number. -/
def ofFloat (x : Float) : Decimal :=
  let (negative, m, e) := significand x.toBits.toNat
  shortest negative m e

/-- The value of a finite float in `count` significant digits, without trailing zeros. -/
def ofFloatRounded (x : Float) (count : Nat) : Decimal :=
  let (negative, m, e) := significand x.toBits.toNat
  if m = 0 then ⟨negative, 0, 0⟩
  else
    let num := m * twoTo e.toNat
    let den := twoTo (-e).toNat
    let unit := floorLog10 num den - count + 1
    let (a, b) := shiftTen num den unit
    let (digits, exponent) := stripZeros (roundEven a b) unit
    ⟨negative, digits, exponent⟩

end Decimal

/-! ## Rounding half up -/

/-- The most digits that a rounded number may have. -/
def precision : Nat := 28

def Decimal.halfUpMagnitude (d : Decimal) : Nat :=
  if 0 ≤ d.exponent then d.digits * tenTo d.exponent.toNat
  else
    let unit := tenTo (-d.exponent).toNat
    (2 * d.digits + unit) / (2 * unit)

/-- A decimal number rounded half up, unless the result has too many digits. -/
def Decimal.halfUp? (d : Decimal) : Option Int :=
  let size : Int := digitCount d.digits + d.exponent
  if d.digits = 0 || size < 0 then some 0
  else if (precision : Int) < size then none
  else
    let n := d.halfUpMagnitude
    if precision < digitCount n then none else some (if d.negative then -n else n)

/-! ## Text -/

/-- How a number is written: positionally while the exponent of its first digit is at least
`lowest` and below `limit`, and with `.0` after a whole number where `pointAlways` holds. -/
structure Layout where
  lowest : Int
  limit : Int
  pointAlways : Bool

def plainLayout : Layout := ⟨-4, 16, true⟩

/-- The layout of scores in evidence lines: six significant digits. -/
def scoreLayout : Layout := ⟨-4, 6, false⟩

def positional (pointAlways : Bool) (digits : List Char) (exponent : Int) : List Char :=
  let point : Int := digits.length + exponent
  if point ≤ 0 then '0' :: '.' :: List.replicate (-point).toNat '0' ++ digits
  else if 0 ≤ exponent then
    digits ++ List.replicate exponent.toNat '0' ++ if pointAlways then ['.', '0'] else []
  else digits.take point.toNat ++ '.' :: digits.drop point.toNat

/-- An exponent: a sign and at least two digits. -/
def exponentText (e : Int) : List Char :=
  let ds := Nat.toDigits 10 e.natAbs
  'e' :: (if e < 0 then '-' else '+') :: (if ds.length < 2 then '0' :: ds else ds)

/-- A decimal number with one digit before the point and an exponent. -/
def scientific (digits : List Char) (exponent : Int) : List Char :=
  let mantissa := match digits with
    | [] => []
    | [d] => [d]
    | d :: rest => d :: '.' :: rest
  mantissa ++ exponentText (exponent + digits.length - 1)

def Decimal.write (layout : Layout) (d : Decimal) : String :=
  let digits := Nat.toDigits 10 d.digits
  let first : Int := digits.length + d.exponent - 1
  let body :=
    if d.digits = 0 then positional layout.pointAlways ['0'] 0
    else if layout.lowest ≤ first && first < layout.limit then
      positional layout.pointAlways digits d.exponent
    else scientific digits d.exponent
  String.ofList (if d.negative then '-' :: body else body)

def floatText (x : Float) : String :=
  match Extended.ofFloat x with
  | .nan => "nan"
  | .infinite negative => if negative then "-inf" else "inf"
  | .finite _ => (Decimal.ofFloat x).write plainLayout

/-- The text of a score: at most six significant digits. -/
def scoreText (x : Float) : String :=
  match Extended.ofFloat x with
  | .nan => "nan"
  | .infinite negative => if negative then "-inf" else "inf"
  | .finite _ => (Decimal.ofFloatRounded x 6).write scoreLayout

end SupplyGate.Number
