import SupplyGate.Ids

/-!
# Ids tell their numbers

The number of an id can be read off its text, so that two ids of a kind are the same only if their
numbers are. No text of an id is empty.
-/

namespace SupplyGate.Ids

/-- The value of a hexadecimal digit. -/
def digitValue (c : Char) : Nat := if c.toNat < 58 then c.toNat - 48 else c.toNat - 87

/-- The number that hexadecimal digits stand for, the highest first. -/
def valueOf (ds : List Char) : Nat := ds.foldl (fun n c => 16 * n + digitValue c) 0

theorem digitValue_digitChar {n : Nat} (h : n < 16) : digitValue n.digitChar = n := by
  revert n
  decide

theorem valueOf_append_singleton (ds : List Char) (c : Char) :
    valueOf (ds ++ [c]) = 16 * valueOf ds + digitValue c := by
  simp [valueOf]

theorem valueOf_toDigits (n : Nat) : valueOf (Nat.toDigits 16 n) = n := by
  induction n using Nat.strongRecOn with
  | ind n ih =>
    rw [Nat.toDigits_eq_if (by decide)]
    split
    · next h => simp [valueOf, digitValue_digitChar h]
    · next h =>
      rw [valueOf_append_singleton, ih (n / 16) (by omega), digitValue_digitChar (by omega)]
      omega

/-- Leading zeros do not count. -/
theorem valueOf_zeros (k : Nat) (ds : List Char) : valueOf (List.replicate k '0' ++ ds) = valueOf ds := by
  induction k with
  | zero => rfl
  | succ k ih => exact ih

theorem valueOf_digits (n : Nat) : valueOf (digits n) = n := by
  rw [digits, valueOf_zeros, valueOf_toDigits]

theorem textOf_inj {kind : IdKind} {m n : Nat} (h : textOf kind m = textOf kind n) : m = n := by
  have hds : digits m = digits n := by
    have := congrArg String.toList h
    simpa [textOf] using this
  rw [← valueOf_digits m, hds, valueOf_digits n]

theorem textOf_ne_empty (kind : IdKind) (n : Nat) : textOf kind n ≠ "" := by
  intro h
  have hlist := congrArg String.toList h
  simp [textOf] at hlist

end SupplyGate.Ids
