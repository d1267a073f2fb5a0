import SupplyGate.Number.Digits
/-!
Exact values of floating-point numbers. A `Float` is a sign, a whole number below `2 ^ 53` and a
power of two, an infinity, or no number at all; `Extended.ofFloat` reads which, so that integers
and floats are compared without rounding either.
-/
namespace SupplyGate.Number

/-- A rational number, an infinity, or not a number. -/
inductive Extended where
  | nan
  | infinite (negative : Bool)
  | finite (q : Rat)
  deriving DecidableEq

/-- The rational `m * 2 ^ e`. -/
def scaled (m : Int) (e : Int) : Rat :=
  if 0 ≤ e then mkRat (m * (twoTo e.toNat : Nat)) 1 else mkRat m (twoTo (-e).toNat)

/-- Sign, significand and exponent of two of the finite number with these bits. -/
def significand (bits : Nat) : Bool × Nat × Int :=
  let biased := bits / twoTo 52 % twoTo 11
  let fraction := bits % twoTo 52
  (bits / twoTo 63 == 1, if biased = 0 then fraction else fraction + twoTo 52,
    (max biased 1 : Nat) - (1075 : Int))

/-- The exact value of a float. -/
def Extended.ofFloat (x : Float) : Extended :=
  let bits := x.toBits.toNat
  if bits / twoTo 52 % twoTo 11 = 2047 then
    if bits % twoTo 52 = 0 then .infinite (bits / twoTo 63 == 1) else .nan
  else
    let (negative, m, e) := significand bits
    .finite (scaled (if negative then -m else m) e)

/-- The exact value of an integer. -/
def Extended.ofInt (n : Int) : Extended := .finite n

/-- Equality of values; what is not a number equals nothing. -/
def Extended.same (a b : Extended) : Bool := a == b && a != .nan

/-- Strict order of values; what is not a number is below nothing and above nothing. -/
def Extended.less : Extended → Extended → Bool
  | .finite p, .finite q => p < q
  | .finite _, .infinite negative => !negative
  | .infinite negative, .finite _ => negative
  | .infinite a, .infinite b => a && !b
  | _, _ => false

/-- Order of values. -/
def Extended.atMost (a b : Extended) : Bool := a.less b || a.same b

end SupplyGate.Number
