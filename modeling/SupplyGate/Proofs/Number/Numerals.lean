import Mathlib.Algebra.Ring.Nat
import Mathlib.Data.List.Basic
import SupplyGate.Number.Numeral

/-!
# Whole numbers in text

A run of decimal digits of any script is read as its value (`readInt_of_isDecimal`), unless there are more of them
than can be read. A run of digits in which one is no decimal digit, such as a superscript, is no numeral
(`readInt_of_not_isDecimal`).
-/

namespace SupplyGate

/-! ## Digits of ASCII -/

namespace Number

theorem isDigit_bounds {c : Char} (h : c.isDigit = true) : 48 ≤ c.toNat ∧ c.toNat ≤ 57 := Char.isDigit_iff_toNat.mp h

theorem ne_of_isDigit {c d : Char} (h : c.isDigit = true) (hd : d.isDigit = false) : c ≠ d := by
  rintro rfl
  rw [h] at hd
  cases hd

theorem isDigit_of_mem_toDigits {n : Nat} : ∀ c ∈ Nat.toDigits 10 n, c.isDigit = true := fun _ hc =>
  Nat.isDigit_of_mem_toDigits (by decide) (by decide) hc

theorem digitsValue_toDigits (n : Nat) : digitsValue (Nat.toDigits 10 n) = n := Nat.ofDigitChars_ten_toDigits

/-- Leading zeros do not count. -/
theorem digitsValue_zeros_append (k : Nat) (cs : List Char) :
    digitsValue (List.replicate k '0' ++ cs) = digitsValue cs := by
  change Nat.ofDigitChars 10 (List.replicate k '0' ++ cs) 0 = Nat.ofDigitChars 10 cs 0
  rw [Nat.ofDigitChars_append, Nat.ofDigitChars_replicate_zero, Nat.mul_zero]

end Number

/-! ## Character classes -/

namespace Text

theorem CharRanges.holds_iff {table : CharRanges} {c : Char} :
    table.holds c = true ↔ ∃ r ∈ table, r.1 ≤ c.toNat ∧ c.toNat ≤ r.2 := by
  simp [CharRanges.holds]

/-- Tables whose ranges do not meet have no character in common. -/
theorem CharRanges.holds_eq_false {s t : CharRanges} (h : ∀ r ∈ s, ∀ q ∈ t, r.2 < q.1 ∨ q.2 < r.1) {c : Char}
    (hc : s.holds c = true) : t.holds c = false := by
  obtain ⟨r, hr, hlow, hhigh⟩ := CharRanges.holds_iff.mp hc
  refine Bool.eq_false_iff.mpr fun ht => ?_
  obtain ⟨q, hq, hlow', hhigh'⟩ := CharRanges.holds_iff.mp ht
  rcases h r hr q hq with h | h <;> omega

theorem isDecimal_eq_holds (c : Char) : isDecimal c = decimalRanges.holds c := by
  simp only [isDecimal, decimalValue?, Option.isSome_map, List.isSome_find?, CharRanges.holds]

theorem isDigit_of_isDecimal {c : Char} (h : isDecimal c = true) : isDigit c = true := by simp [isDigit, h]

theorem isBlank_of_isDigit {c : Char} (h : isDigit c = true) : isBlank c = false := by
  rcases Bool.or_eq_true_iff.mp h with h | h
  · rw [isDecimal_eq_holds] at h
    exact CharRanges.holds_eq_false (by decide +kernel) h
  · exact CharRanges.holds_eq_false (by decide +kernel) h

/-- A digit of ASCII has the value that its code says. -/
theorem decimalValue?_of_isDigit {c : Char} (h : c.isDigit = true) : decimalValue? c = some (c.toNat - 48) := by
  have hc := Number.isDigit_bounds h
  have hranges : decimalRanges = (48, 57) :: decimalRanges.tail := rfl
  rw [decimalValue?, hranges, List.find?_cons_of_pos (by simpa using hc), Option.map_some]
  exact congrArg some (Nat.mod_eq_of_lt (by omega))

theorem isBlank_of_ascii_isDigit {c : Char} (h : c.isDigit = true) : isBlank c = false :=
  isBlank_of_isDigit (isDigit_of_isDecimal (by rw [isDecimal, decimalValue?_of_isDigit h]; rfl))

theorem dropWhile_isBlank {cs : List Char} (h : ∀ c ∈ cs, isBlank c = false) : cs.dropWhile isBlank = cs := by
  cases cs with
  | nil => rfl
  | cons c cs => rw [List.dropWhile_cons, h c List.mem_cons_self]; rfl

/-- There is nothing to trim where nothing is blank. -/
theorem trimChars_eq_self {cs : List Char} (h : ∀ c ∈ cs, isBlank c = false) : trimChars cs = cs := by
  have hreverse : ∀ c ∈ cs.reverse, isBlank c = false := fun c hc => h c (List.mem_reverse.mp hc)
  rw [trimChars, dropWhile_isBlank h, dropWhile_isBlank hreverse, List.reverse_reverse]

end Text

/-! ## Numerals -/

namespace Number

open Text

theorem isDigit_digitChar {n : Nat} (h : n < 10) : n.digitChar.isDigit = true := by
  revert n
  decide

theorem toNat_digitChar {n : Nat} (h : n < 10) : n.digitChar.toNat - 48 = n := by
  revert n
  decide

theorem plainDigit_of_decimalValue? {c : Char} {n : Nat} (h : decimalValue? c = some n) :
    plainDigit c = n.digitChar := by
  rw [plainDigit, h]

theorem plainDigit_of_not_isDecimal {c : Char} (h : isDecimal c = false) : plainDigit c = c := by
  have hnone : decimalValue? c = none := Option.not_isSome_iff_eq_none.mp (by simpa [isDecimal] using h)
  rw [plainDigit, hnone]

/-- Numerals without a low line have nothing to be left out. -/
theorem dropSeparators_eq_some {cs : List Char} (h : '_' ∉ cs) : dropSeparators cs = some cs := by
  fun_induction dropSeparators cs with
  | case1 => rfl
  | case2 => simp at h
  | case3 => simp at h
  | case4 => rfl
  | case5 => simp at h
  | case6 => simp at h
  | case7 c rest _ _ _ _ ih =>
    rw [ih fun hrest => h (List.mem_cons_of_mem _ hrest)]
    rfl

/-- A numeral that begins with no sign has none. -/
theorem splitSign_eq {cs : List Char} (hminus : cs.head? ≠ some '-') (hplus : cs.head? ≠ some '+') :
    splitSign cs = (false, cs) := by
  unfold splitSign
  split
  · simp at hminus
  · simp at hplus
  · rfl

/-- How a run of digits looks to the reader of numerals: neither signs nor low lines are among them. -/
theorem plainDigit_ne {c : Char} (h : isDigit c = true) {d : Char} (hd : isDigit d = false) (hplain : d.isDigit = false) :
    plainDigit c ≠ d := by
  cases hdecimal : decimalValue? c with
  | some n =>
    rw [plainDigit_of_decimalValue? hdecimal]
    rintro rfl
    rw [isDigit_digitChar (decimalValue?_lt hdecimal)] at hplain
    cases hplain
  | none =>
    rw [plainDigit_of_not_isDecimal (by rw [isDecimal, hdecimal]; rfl)]
    rintro rfl
    rw [h] at hd
    cases hd

/-- The number that decimal digits of any script stand for, the highest first. -/
def decimalOf (cs : List Char) : Nat := cs.foldl (fun n c => 10 * n + (decimalValue? c).getD 0) 0

theorem digitsValue_plainDigit {cs : List Char} (h : ∀ c ∈ cs, isDecimal c = true) :
    digitsValue (cs.map plainDigit) = decimalOf cs := by
  rw [digitsValue, decimalOf, List.foldl_map]
  refine List.foldl_ext _ _ _ fun n c hc => ?_
  obtain ⟨d, hd⟩ := Option.isSome_iff_exists.mp (h c hc)
  rw [plainDigit_of_decimalValue? hd, toNat_digitChar (decimalValue?_lt hd), hd, Option.getD_some]

section Digits

variable {cs : List Char}

/-- What the reader of whole numbers makes of a run of digits. -/
theorem readInt_of_isDigit (h : ∀ c ∈ cs, isDigit c = true) :
    readInt (String.ofList cs) =
      if cs.isEmpty || !(cs.map plainDigit).all Char.isDigit then .error .malformed
      else if digitLimit < cs.length then .error (.tooLong cs.length)
      else .ok (digitsValue (cs.map plainDigit)) := by
  have hmark (d : Char) (hd : isDigit d = false) (hplain : d.isDigit = false) : d ∉ cs.map plainDigit := fun hmem => by
    obtain ⟨c, hc, hcd⟩ := List.mem_map.mp hmem
    exact plainDigit_ne (h c hc) hd hplain hcd
  have hsign := splitSign_eq (mt List.mem_of_head? (hmark '-' (by decide +kernel) rfl))
    (mt List.mem_of_head? (hmark '+' (by decide +kernel) rfl))
  have hdrop := dropSeparators_eq_some (hmark '_' (by decide +kernel) rfl)
  unfold readInt
  rw [String.toList_ofList, trimChars_eq_self fun c hc => isBlank_of_isDigit (h c hc), hsign]
  simp only [hdrop, List.isEmpty_map, List.length_map, Bool.false_eq_true, if_false]

theorem readInt_of_isDecimal (hne : cs ≠ []) (h : ∀ c ∈ cs, isDecimal c = true) :
    readInt (String.ofList cs) =
      if digitLimit < cs.length then .error (.tooLong cs.length) else .ok (decimalOf cs) := by
  have hdigits : (cs.map plainDigit).all Char.isDigit = true := by
    refine List.all_eq_true.mpr fun d hd => ?_
    obtain ⟨c, hc, rfl⟩ := List.mem_map.mp hd
    obtain ⟨n, hn⟩ := Option.isSome_iff_exists.mp (h c hc)
    rw [plainDigit_of_decimalValue? hn, isDigit_digitChar (decimalValue?_lt hn)]
  rw [readInt_of_isDigit fun c hc => isDigit_of_isDecimal (h c hc), hdigits, digitsValue_plainDigit h]
  simp [hne]

/-- A digit in another shape is no part of a numeral. -/
theorem readInt_of_not_isDecimal (h : ∀ c ∈ cs, isDigit c = true) {c : Char} (hc : c ∈ cs)
    (hother : isDecimal c = false) : readInt (String.ofList cs) = .error .malformed := by
  have hplain : c.isDigit = false := by
    refine Bool.eq_false_iff.mpr fun hdigit => ?_
    rw [isDecimal, decimalValue?_of_isDigit hdigit] at hother
    cases hother
  have hdigits : (cs.map plainDigit).all Char.isDigit = false := by
    refine List.all_eq_false.mpr ⟨c, List.mem_map.mpr ⟨c, hc, plainDigit_of_not_isDecimal hother⟩, ?_⟩
    simp [hplain]
  rw [readInt_of_isDigit h, hdigits]
  simp

end Digits

/-! ## Writing -/

theorem digitCount_le_iff {n k : Nat} (hk : 0 < k) : digitCount n ≤ k ↔ n < 10 ^ k :=
  Nat.length_toDigits_le_iff (by decide) hk

theorem decimalOf_toDigits (n : Nat) : decimalOf (Nat.toDigits 10 n) = n := by
  have hvalue : ∀ c ∈ Nat.toDigits 10 n, decimalValue? c = some (c.toNat - 48) := fun c hc =>
    decimalValue?_of_isDigit (isDigit_of_mem_toDigits c hc)
  have hsame : decimalOf (Nat.toDigits 10 n) = Nat.ofDigitChars 10 (Nat.toDigits 10 n) 0 := by
    refine List.foldl_ext _ _ _ fun m c hc => ?_
    rw [hvalue c hc]
    rfl
  rw [hsame, Nat.ofDigitChars_ten_toDigits]

end Number

end SupplyGate
