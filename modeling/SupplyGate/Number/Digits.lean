/-!
Powers of two and of ten, and the decimal digits of whole numbers: `digitCount` of a number, and
the number `digitsValue` that digits make. Whole numbers of more than `digitLimit` digits are neither
read nor written.
-/
namespace SupplyGate.Number

def twoTo (n : Nat) : Nat := Nat.pow 2 n

def tenTo (n : Nat) : Nat := Nat.pow 10 n

/-- How many decimal digits a number has. -/
def digitCount (n : Nat) : Nat := (Nat.toDigits 10 n).length

/-- The most digits that a whole number may be read or written with. -/
def digitLimit : Nat := 4300

/-- A whole number can be written: its digits are not too many. -/
def isWritable (n : Int) : Bool := digitCount n.natAbs ≤ digitLimit

/-- The value of ASCII decimal digits, most significant first. -/
def digitsValue (cs : List Char) : Nat := cs.foldl (fun n c => 10 * n + (c.toNat - 48)) 0

/-- The first `count` digits after a point as a whole number; what is smaller is cut off. -/
def fractionValue (count : Nat) (cs : List Char) : Nat :=
  let kept := cs.take count
  digitsValue (kept ++ List.replicate (count - kept.length) '0')

end SupplyGate.Number
