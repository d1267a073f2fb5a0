import Mathlib.Algebra.Group.Nat.Defs
import SupplyGate.Text.Case

/-!
# Upper case is upper case of itself

No code point that the case tables give is one that they map, so that a text in upper case is its own upper case
(`Text.upper_upper`). The tables are compared as sets of bits: the set of what they map and the set of what they
give have no bit in common.
-/

namespace SupplyGate.Text

/-- The code points of a run, counted from one of its ends. -/
def points (run : Nat × Nat × Nat × Nat) (start : Nat) : List Nat :=
  (List.range ((run.2.1 - run.1) / run.2.2.1 + 1)).map fun k => start + k * run.2.2.1

/-- The code points that have another upper-case form. -/
def lowerPoints : List Nat := upperExpansions.map Prod.fst ++ upperRuns.flatMap fun run => points run run.1

/-- The code points of upper-case forms. -/
def upperPoints : List Nat := upperExpansions.flatMap Prod.snd ++ upperRuns.flatMap fun run => points run run.2.2.2

/-- Numbers as a set of bits. -/
def bits (ns : List Nat) : Nat := ns.foldr (fun n m => m ||| 2 ^ n) 0

theorem testBit_bits {ns : List Nat} {n : Nat} (h : n ∈ ns) : (bits ns).testBit n = true := by
  induction ns with
  | nil => cases h
  | cons m ns ih =>
    rw [bits, List.foldr_cons, Nat.testBit_or]
    rcases List.mem_cons.mp h with rfl | h
    · rw [Nat.testBit_two_pow_self, Bool.or_true]
    · have hbit : (List.foldr (fun n m => m ||| 2 ^ n) 0 ns).testBit n = true := ih h
      rw [hbit, Bool.true_or]

theorem bits_disjoint : bits lowerPoints &&& bits upperPoints = 0 := by decide +kernel

theorem upperPoints_valid : (upperPoints.all fun n => n < 0xD800 || 0xDFFF < n && n < 0x110000) = true := by
  decide +kernel

/-- What a table gives is not mapped again. -/
theorem not_mem_lowerPoints {n : Nat} (h : n ∈ upperPoints) : n ∉ lowerPoints := by
  intro hlower
  have hbit : (bits lowerPoints &&& bits upperPoints).testBit n = true := by
    rw [Nat.testBit_and, testBit_bits hlower, testBit_bits h]
    rfl
  rw [bits_disjoint, Nat.zero_testBit] at hbit
  cases hbit

theorem toNat_ofNat {n : Nat} (h : n ∈ upperPoints) : (Char.ofNat n).toNat = n := by
  have hvalid := List.all_eq_true.mp upperPoints_valid n h
  simp only [Bool.or_eq_true, Bool.and_eq_true, decide_eq_true_eq] at hvalid
  rw [Char.ofNat, dif_pos hvalid]
  rfl

/-- The upper-case form of a character. -/
def upperChar (c : Char) : List Char :=
  if c.toNat < 128 then [c.toUpper] else mapChar upperExpansions upperRuns c

theorem upper_eq (s : String) : upper s = String.ofList (s.toList.flatMap upperChar) := rfl

/-- A number that a run maps is one of its points. -/
theorem mem_points {first last step target n m : Nat} (hfirst : first ≤ n) (hlast : n ≤ last)
    (hstep : (n - first) % step = 0) (start : Nat) (hm : m = start + (n - first)) :
    m ∈ points (first, last, step, target) start := by
  have hmul := Nat.div_mul_cancel (Nat.dvd_of_mod_eq_zero hstep)
  refine List.mem_map.mpr ⟨(n - first) / step, List.mem_range.mpr (Nat.lt_succ_of_le ?_), ?_⟩
  · have hle : n - first ≤ last - first := by omega
    exact Nat.div_le_div_right hle
  · dsimp only
    rw [hmul, hm]

theorem shift_spec (n : Nat) : shift upperRuns n = n ∨ n ∈ lowerPoints ∧ shift upperRuns n ∈ upperPoints := by
  unfold shift
  split
  · next first last step target hfind =>
    have hrun := List.mem_of_find?_eq_some hfind
    have hholds := List.find?_some hfind
    simp only [Bool.and_eq_true, decide_eq_true_eq, beq_iff_eq] at hholds
    obtain ⟨⟨hfirst, hlast⟩, hstep⟩ := hholds
    refine .inr ⟨List.mem_append_right _ (List.mem_flatMap.mpr ⟨_, hrun, ?_⟩),
      List.mem_append_right _ (List.mem_flatMap.mpr ⟨_, hrun, ?_⟩)⟩
    · exact mem_points hfirst hlast hstep first (by omega)
    · exact mem_points hfirst hlast hstep target (by omega)
  · exact .inl rfl

theorem mem_of_lookup {α β : Type} [BEq α] [LawfulBEq α] {a : α} {b : β} {l : List (α × β)}
    (h : l.lookup a = some b) : (a, b) ∈ l := by
  obtain ⟨before, after, rfl, -⟩ := List.lookup_eq_some_iff.mp h
  exact List.mem_append_right _ List.mem_cons_self

/-- A character that the tables do not map stays, if it is not a plain one. -/
theorem mapChar_of_not_mem {c : Char} (h : c.toNat ∉ lowerPoints) : mapChar upperExpansions upperRuns c = [c] := by
  unfold mapChar
  split
  · next codes hcodes =>
    exact absurd (List.mem_append_left _ (List.mem_map_of_mem (f := Prod.fst) (mem_of_lookup hcodes))) h
  · rcases shift_spec c.toNat with hsame | ⟨hlower, -⟩
    · rw [hsame, Char.ofNat_toNat]
    · exact absurd hlower h

theorem toUpper_plain : ∀ n < 128, (Char.ofNat n).toUpper.toNat < 128 ∧
    (Char.ofNat n).toUpper.toUpper = (Char.ofNat n).toUpper := by
  decide

/-- A plain small letter is mapped, and no other plain character is. -/
theorem toUpper_of_not_mem {c : Char} (hc : c.toNat < 128) (h : c.toNat ∉ lowerPoints) : c.toUpper = c := by
  have hplain : ∀ n < 128, ¬(97 ≤ n ∧ n ≤ 122) → (Char.ofNat n).toUpper = Char.ofNat n := by decide
  have hletters : (0x61, 0x7A, 1, 0x41) ∈ upperRuns := List.mem_cons_self
  have hnot : ¬(97 ≤ c.toNat ∧ c.toNat ≤ 122) := fun hletter =>
    h (List.mem_append_right _ (List.mem_flatMap.mpr ⟨_, hletters,
      mem_points hletter.1 hletter.2 (Nat.mod_one _) 0x61 (by omega)⟩))
  have hupper := hplain c.toNat hc hnot
  rwa [Char.ofNat_toNat] at hupper

theorem upperChar_of_mem {n : Nat} (h : n ∈ upperPoints) : upperChar (Char.ofNat n) = [Char.ofNat n] := by
  have hnot : (Char.ofNat n).toNat ∉ lowerPoints := by
    rw [toNat_ofNat h]
    exact not_mem_lowerPoints h
  unfold upperChar
  split
  · next hc => rw [toUpper_of_not_mem hc hnot]
  · exact mapChar_of_not_mem hnot

/-- The upper-case form of a character has upper-case characters. -/
theorem upperChar_upperChar {c d : Char} (h : d ∈ upperChar c) : upperChar d = [d] := by
  unfold upperChar at h
  split at h
  · next hc =>
    obtain rfl := List.mem_singleton.mp h
    obtain ⟨hsmall, hagain⟩ := toUpper_plain c.toNat hc
    rw [Char.ofNat_toNat] at hsmall hagain
    rw [upperChar, if_pos hsmall, hagain]
  · next hc =>
    unfold mapChar at h
    split at h
    · next codes hcodes =>
      obtain ⟨code, hcode, rfl⟩ := List.mem_map.mp h
      exact upperChar_of_mem (List.mem_append_left _ (List.mem_flatMap.mpr ⟨_, mem_of_lookup hcodes, hcode⟩))
    · next hlookup =>
      obtain rfl := List.mem_singleton.mp h
      rcases shift_spec c.toNat with hsame | ⟨-, hupper⟩
      · rw [hsame, Char.ofNat_toNat, upperChar, if_neg hc, mapChar, hlookup]
        dsimp only
        rw [hsame, Char.ofNat_toNat]
      · exact upperChar_of_mem hupper

/-- **A text in upper case is its own upper case.** -/
theorem upper_upper (s : String) : upper (upper s) = upper s := by
  have hchars : ∀ cs : List Char, (∀ c ∈ cs, upperChar c = [c]) → cs.flatMap upperChar = cs := by
    intro cs h
    induction cs with
    | nil => rfl
    | cons c cs ih =>
      rw [List.flatMap_cons, h c List.mem_cons_self, ih fun d hd => h d (List.mem_cons_of_mem _ hd)]
      rfl
  rw [upper_eq (upper s), upper_eq s, String.toList_ofList, hchars]
  intro d hd
  obtain ⟨c, -, hd⟩ := List.mem_flatMap.mp hd
  exact upperChar_upperChar hd

end SupplyGate.Text
