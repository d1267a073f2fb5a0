import SupplyGate.Number.Digits
/-!
The float nearest to a rational number, a tie going to the even significand. Every conversion into
floats goes through `nearest`: of integers, of quotients of integers, of decimal text.
-/
namespace SupplyGate.Number

/-- `2 ^ g ≤ num / den`. -/
def powerAtMost (g : Int) (num den : Nat) : Bool :=
  if 0 ≤ g then den * twoTo g.toNat ≤ num else den ≤ num * twoTo (-g).toNat

/-- The exponent `g` with `2 ^ g ≤ num / den < 2 ^ (g + 1)`, for positive arguments. -/
def floorLog2 (num den : Nat) : Int :=
  let g : Int := (num.log2 : Int) - den.log2
  if powerAtMost g num den then g else g - 1

/-- The quotient rounded to a whole number, a tie going to the even neighbour. -/
def roundEven (num den : Nat) : Nat :=
  let q := num / den
  let r := num % den
  if den < 2 * r || (2 * r == den && q % 2 == 1) then q + 1 else q

def infinityBits : Nat := 2047 * twoTo 52

/-- The bits of the float nearest to the positive rational `num / den`: the significand counts
units of `2 ^ e`, and a significand that rounds up to `2 ^ 53` carries into the exponent. -/
def nearestBits (num den : Nat) : Nat :=
  if num = 0 then 0
  else
    let e := max (floorLog2 num den - 52) (-1074)
    let m :=
      if 0 ≤ e then roundEven num (den * twoTo e.toNat)
      else roundEven (num * twoTo (-e).toNat) den
    min ((e + 1074).toNat * twoTo 52 + m) infinityBits

/-- The float nearest to `num / den`, with a sign. -/
def nearest (negative : Bool) (num den : Nat) : Float :=
  Float.ofBits (UInt64.ofNat ((if negative then twoTo 63 else 0) + nearestBits num den))

/-- The float nearest to an integer, unless it is out of range. -/
def ofInt? (n : Int) : Option Float :=
  if nearestBits n.natAbs 1 = infinityBits then none else some (nearest (n < 0) n.natAbs 1)

/-- The float nearest to a quotient of integers, unless it is out of range. -/
def quotient? (n d : Int) : Option Float :=
  if nearestBits n.natAbs d.natAbs = infinityBits then none
  else some (nearest (decide (n < 0) != decide (d < 0)) n.natAbs d.natAbs)

end SupplyGate.Number
