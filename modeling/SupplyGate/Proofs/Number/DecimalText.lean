import Mathlib.Algebra.Order.Field.Rat
import Mathlib.Algebra.Order.Ring.Int
import Mathlib.Tactic.NormNum
import SupplyGate.Proofs.Number.Numerals

/-!
# Decimal numbers in text

A decimal number that is written in positions or with an exponent, in whatever layout, is read as a decimal number of
the same value (`readNumber_write`). So is an integer (`readNumber_int`).
-/

namespace SupplyGate.Number

open Text

/-- The value of a decimal number. -/
def Decimal.toRat (d : Decimal) : ℚ := (if d.negative then -1 else 1) * (d.digits * 10 ^ d.exponent)

theorem digitsValue_append_zeros (cs : List Char) (k : Nat) :
    digitsValue (cs ++ List.replicate k '0') = digitsValue cs * 10 ^ k := by
  change Nat.ofDigitChars 10 (cs ++ List.replicate k '0') 0 = Nat.ofDigitChars 10 cs 0 * 10 ^ k
  rw [Nat.ofDigitChars_append, Nat.ofDigitChars_replicate_zero, Nat.mul_comm]

/-! ## Characters of numerals -/

/-- The characters that numerals are written with. -/
def InNumeral (c : Char) : Prop := c.isDigit = true ∨ c ∈ ['-', '+', '.', 'e']

theorem plainDigit_of_isDigit {c : Char} (h : c.isDigit = true) : plainDigit c = c := by
  have hc := isDigit_bounds h
  have hcode : ∀ n < 10, n.digitChar.toNat = n + 48 := by decide
  rw [plainDigit_of_decimalValue? (decimalValue?_of_isDigit h)]
  refine Char.ext (UInt32.toNat_inj.mp ?_)
  exact (hcode _ (by omega)).trans (Nat.sub_add_cancel hc.1)

/-- Readers of numerals take these characters as they are. -/
theorem InNumeral.plain {c : Char} (h : InNumeral c) : plainDigit c = c ∧ isBlank c = false ∧ c ≠ '_' := by
  rcases h with h | h
  · exact ⟨plainDigit_of_isDigit h, isBlank_of_ascii_isDigit h, ne_of_isDigit h rfl⟩
  · simp only [List.mem_cons, List.not_mem_nil, or_false] at h
    rcases h with rfl | rfl | rfl | rfl
    all_goals decide +kernel

/-! ## Endings -/

/-- What may follow the digits of a numeral: nothing, or an exponent. -/
structure Ending (tail : List Char) (x : Int) : Prop where
  reads : readExponent tail = some x
  chars : ∀ c ∈ tail, InNumeral c

theorem ending_nil : Ending [] 0 := ⟨rfl, fun _ h => nomatch h⟩

theorem readExponent_signed {ds : List Char} (hne : ds ≠ []) (hds : ∀ c ∈ ds, c.isDigit = true) :
    readExponent ('e' :: '-' :: ds) = some (-(digitsValue ds : Int)) ∧
      readExponent ('e' :: '+' :: ds) = some (digitsValue ds : Int) := by
  have hall : ds.all Char.isDigit = true := List.all_eq_true.mpr hds
  simp [readExponent, splitSign, hne, hall]

/-- The exponent of a number is read as it was written. -/
theorem ending_exponentText (x : Int) : Ending (exponentText x) x := by
  -- A zero in front makes no difference.
  obtain ⟨ds, htext, hne, hds, hvalue⟩ : ∃ ds, exponentText x = 'e' :: (if x < 0 then '-' else '+') :: ds ∧
      ds ≠ [] ∧ (∀ c ∈ ds, c.isDigit = true) ∧ digitsValue ds = x.natAbs := by
    refine ⟨_, rfl, ?_⟩
    split
    · refine ⟨List.cons_ne_nil _ _, List.forall_mem_cons.mpr ⟨rfl, isDigit_of_mem_toDigits⟩, ?_⟩
      exact (digitsValue_zeros_append 1 _).trans (digitsValue_toDigits _)
    · exact ⟨Nat.toDigits_ne_nil, isDigit_of_mem_toDigits, digitsValue_toDigits _⟩
  obtain ⟨hminus, hplus⟩ := readExponent_signed hne hds
  have hchars : ∀ c ∈ ds, InNumeral c := fun c hc => .inl (hds c hc)
  rw [htext]
  by_cases hx : x < 0
  · rw [if_pos hx]
    refine ⟨hminus.trans (congrArg some (by omega)), ?_⟩
    exact List.forall_mem_cons.mpr ⟨.inr (by decide), List.forall_mem_cons.mpr ⟨.inr (by decide), hchars⟩⟩
  · rw [if_neg hx]
    refine ⟨hplus.trans (congrArg some (by omega)), ?_⟩
    exact List.forall_mem_cons.mpr ⟨.inr (by decide), List.forall_mem_cons.mpr ⟨.inr (by decide), hchars⟩⟩

theorem Ending.eq_nil_or_cons {tail : List Char} {x : Int} (h : Ending tail x) :
    tail = [] ∨ ∃ c rest, tail = c :: rest ∧ c.isDigit = false ∧ c ≠ '.' := by
  cases tail with
  | nil => exact .inl rfl
  | cons c rest =>
    refine .inr ⟨c, rest, rfl, ?_⟩
    have hread := h.reads
    rw [readExponent] at hread
    split at hread
    · next hc =>
      rcases Bool.or_eq_true_iff.mp hc with hc | hc
      · obtain rfl := eq_of_beq hc
        decide
      · obtain rfl := eq_of_beq hc
        decide
    · cases hread

/-- Digits are told from what follows them. -/
theorem Ending.span {tail : List Char} {x : Int} (h : Ending tail x) {cs : List Char} (hcs : ∀ c ∈ cs, c.isDigit = true) :
    (cs ++ tail).takeWhile Char.isDigit = cs ∧ (cs ++ tail).dropWhile Char.isDigit = tail := by
  rw [List.takeWhile_append_of_pos hcs, List.dropWhile_append_of_pos hcs]
  rcases h.eq_nil_or_cons with rfl | ⟨c, rest, rfl, hc, -⟩
  · simp
  · simp [hc]

/-! ## Bodies of numerals -/

/-- A numeral without its sign that is read as `n * 10 ^ x`. -/
structure Spells (body : List Char) (n : Nat) (x : Int) : Prop where
  chars : ∀ c ∈ body, InNumeral c
  head : ∃ c rest, body = c :: rest ∧ c.isDigit = true
  reads : ∀ negative, ∃ e, readUnsigned negative body = some e ∧ e.toRat = (⟨negative, n, x⟩ : Decimal).toRat

section Bodies

variable {whole fraction tail : List Char} {n : Nat} {x y : Int}

theorem spells_whole (hne : whole ≠ []) (hwhole : ∀ c ∈ whole, c.isDigit = true) (htail : Ending tail y)
    (hvalue : (digitsValue whole * 10 ^ y : ℚ) = n * 10 ^ x) : Spells (whole ++ tail) n x where
  chars := List.forall_mem_append.mpr ⟨fun c hc => .inl (hwhole c hc), htail.chars⟩
  head := by
    obtain ⟨c, rest, rfl⟩ := List.exists_cons_of_ne_nil hne
    exact ⟨c, rest ++ tail, rfl, hwhole c List.mem_cons_self⟩
  reads := fun negative => by
    refine ⟨⟨negative, digitsValue whole, y⟩, ?_, by rw [Decimal.toRat, hvalue]; rfl⟩
    unfold readUnsigned
    obtain ⟨htake, hdrop⟩ := htail.span hwhole
    simp only [htake, hdrop]
    rcases htail.eq_nil_or_cons with rfl | ⟨c, rest, rfl, -, hpoint⟩
    · simp [hne, htail.reads]
    · simp [hne, htail.reads, hpoint]

theorem spells_point (hne : whole ≠ []) (hwhole : ∀ c ∈ whole, c.isDigit = true)
    (hfraction : ∀ c ∈ fraction, c.isDigit = true) (htail : Ending tail y)
    (hvalue : (digitsValue (whole ++ fraction) * 10 ^ (y - fraction.length) : ℚ) = n * 10 ^ x) :
    Spells (whole ++ '.' :: (fraction ++ tail)) n x where
  chars := by
    refine List.forall_mem_append.mpr ⟨fun c hc => .inl (hwhole c hc), List.forall_mem_cons.mpr ⟨.inr (by decide), ?_⟩⟩
    exact List.forall_mem_append.mpr ⟨fun c hc => .inl (hfraction c hc), htail.chars⟩
  head := by
    obtain ⟨c, rest, rfl⟩ := List.exists_cons_of_ne_nil hne
    exact ⟨c, rest ++ '.' :: (fraction ++ tail), rfl, hwhole c List.mem_cons_self⟩
  reads := fun negative => by
    refine ⟨⟨negative, digitsValue (whole ++ fraction), y - fraction.length⟩, ?_, by rw [Decimal.toRat, hvalue]; rfl⟩
    unfold readUnsigned
    obtain ⟨htake, hdrop⟩ := htail.span hfraction
    have htake' : (whole ++ '.' :: (fraction ++ tail)).takeWhile Char.isDigit = whole := by
      rw [List.takeWhile_append_of_pos hwhole]
      simp
    have hdrop' : (whole ++ '.' :: (fraction ++ tail)).dropWhile Char.isDigit = '.' :: (fraction ++ tail) := by
      rw [List.dropWhile_append_of_pos hwhole]
      simp
    simp [htake, hdrop, htake', hdrop', hne, htail.reads]

variable {digits : List Char}

theorem isDigit_of_mem_zeros (k : Nat) : ∀ c ∈ List.replicate k '0', c.isDigit = true := fun c hc => by
  rw [List.eq_of_mem_replicate hc]
  rfl

/-! The three positions of the point: before the digits, after them, and among them. -/

theorem spells_below (hdigits : ∀ c ∈ digits, c.isDigit = true) (k : Nat) :
    Spells ('0' :: '.' :: List.replicate k '0' ++ digits) (digitsValue digits) (-(k + digits.length)) := by
  have hfraction : ∀ c ∈ List.replicate k '0' ++ digits, c.isDigit = true :=
    List.forall_mem_append.mpr ⟨isDigit_of_mem_zeros k, hdigits⟩
  have hspells := spells_point (n := digitsValue digits) (x := -(k + digits.length)) (List.cons_ne_nil '0' [])
    (isDigit_of_mem_zeros 1) hfraction ending_nil ?_
  · simpa using hspells
  · have hexponent : 0 - ((List.replicate k '0' ++ digits).length : Int) = -(k + digits.length) := by
      simp only [List.length_append, List.length_replicate]
      omega
    have hvalue : digitsValue (['0'] ++ (List.replicate k '0' ++ digits)) = digitsValue digits :=
      (digitsValue_zeros_append 1 _).trans (digitsValue_zeros_append k digits)
    rw [hexponent, hvalue]

theorem spells_above (hne : digits ≠ []) (hdigits : ∀ c ∈ digits, c.isDigit = true) (pointAlways : Bool) (k : Nat) :
    Spells (digits ++ List.replicate k '0' ++ if pointAlways then ['.', '0'] else []) (digitsValue digits) k := by
  have hwhole : ∀ c ∈ digits ++ List.replicate k '0', c.isDigit = true :=
    List.forall_mem_append.mpr ⟨hdigits, isDigit_of_mem_zeros k⟩
  have hnil : digits ++ List.replicate k '0' ≠ [] := List.append_ne_nil_of_left_ne_nil hne _
  cases pointAlways with
  | false =>
    refine spells_whole hnil hwhole ending_nil ?_
    rw [digitsValue_append_zeros, zpow_natCast, zpow_zero, mul_one, Nat.cast_mul, Nat.cast_pow, Nat.cast_ofNat]
  | true =>
    refine spells_point hnil hwhole (isDigit_of_mem_zeros 1) ending_nil ?_
    have hexponent : 0 - ((List.replicate 1 '0').length : Int) = -1 := rfl
    rw [digitsValue_append_zeros, digitsValue_append_zeros, hexponent, zpow_natCast, zpow_neg_one]
    push_cast
    rw [mul_inv_cancel_right₀ (by norm_num)]

theorem spells_among (hdigits : ∀ c ∈ digits, c.isDigit = true) {k : Nat} (hpos : 0 < k) (hk : k ≤ digits.length) :
    Spells (digits.take k ++ '.' :: digits.drop k) (digitsValue digits) (k - digits.length) := by
  have hne : digits.take k ≠ [] := List.ne_nil_of_length_pos (by rw [List.length_take]; omega)
  have hwhole : ∀ c ∈ digits.take k, c.isDigit = true := fun c hc => hdigits c (List.mem_of_mem_take hc)
  have hfraction : ∀ c ∈ digits.drop k, c.isDigit = true := fun c hc => hdigits c (List.mem_of_mem_drop hc)
  have hspells := spells_point (n := digitsValue digits) (x := k - digits.length) hne hwhole hfraction ending_nil ?_
  · simpa using hspells
  · have hexponent : 0 - ((digits.drop k).length : Int) = k - digits.length := by
      rw [List.length_drop]
      omega
    rw [hexponent, List.take_append_drop]

theorem spells_positional (hne : digits ≠ []) (hdigits : ∀ c ∈ digits, c.isDigit = true) (pointAlways : Bool) (x : Int) :
    Spells (positional pointAlways digits x) (digitsValue digits) x := by
  unfold positional
  dsimp only
  split
  case isTrue hpoint =>
    have hspells := spells_below hdigits (-(digits.length + x)).toNat
    rwa [show -(((-(digits.length + x)).toNat : Int) + digits.length) = x by omega] at hspells
  case isFalse hpoint =>
    split
    case isTrue hx =>
      have hspells := spells_above hne hdigits pointAlways x.toNat
      rwa [Int.toNat_of_nonneg hx] at hspells
    case isFalse hx =>
      have hspells := spells_among hdigits (k := (digits.length + x).toNat) (by omega) (by omega)
      rwa [show (((digits.length + x).toNat : Int) - digits.length) = x by omega] at hspells

theorem spells_scientific (hne : digits ≠ []) (hdigits : ∀ c ∈ digits, c.isDigit = true) (x : Int) :
    Spells (scientific digits x) (digitsValue digits) x := by
  obtain ⟨d, rest, rfl⟩ := List.exists_cons_of_ne_nil hne
  obtain ⟨hd, hrest⟩ := List.forall_mem_cons.mp hdigits
  have hwhole : ∀ c ∈ [d], c.isDigit = true := List.forall_mem_singleton.mpr hd
  cases rest with
  | nil =>
    refine spells_whole (List.cons_ne_nil d []) hwhole (ending_exponentText _) ?_
    simp
  | cons d' rest =>
    have hspells := spells_point (n := digitsValue (d :: d' :: rest)) (x := x) (List.cons_ne_nil d []) hwhole hrest
      (ending_exponentText (x + (d :: d' :: rest).length - 1)) ?_
    · exact hspells
    · have hexponent : x + ((d :: d' :: rest).length : Int) - 1 - (d' :: rest).length = x := by
        simp only [List.length_cons]
        omega
      rw [hexponent]
      rfl

/-- A word that begins with no digit is told from a numeral. -/
theorem lower_beq_eq_false {c : Char} {rest : List Char} (hc : c.isDigit = true) (word : String) {d : Char}
    (hword : word.toList.head? = some d) (hd : d.isDigit = false) :
    (String.ofList ((c :: rest).map Char.toLower) == word) = false := by
  have hlower : c.toLower = c := dif_neg fun hupper => by
    have hcode := isDigit_bounds hc
    have hbound : 65 ≤ c.toNat := UInt32.le_iff_toNat_le.mp hupper.1
    omega
  refine beq_false_of_ne ?_
  rintro rfl
  rw [String.toList_ofList, List.map_cons, List.head?_cons, hlower] at hword
  exact ne_of_isDigit hc hd (Option.some.inj hword)

/-- A numeral is read with its sign. -/
theorem Spells.readNumber {body : List Char} (h : Spells body n x) (negative : Bool) :
    ∃ e, readNumber (String.ofList (if negative then '-' :: body else body)) = some (.decimal e) ∧
      e.toRat = (⟨negative, n, x⟩ : Decimal).toRat := by
  obtain ⟨e, he, hvalue⟩ := h.reads negative
  refine ⟨e, ?_, hvalue⟩
  obtain ⟨c, rest, rfl, hc⟩ := h.head
  have hsign : splitSign (if negative then '-' :: c :: rest else c :: rest) = (negative, c :: rest) := by
    cases negative with
    | true => rfl
    | false =>
      have hne : ∀ d : Char, d.isDigit = false → (c :: rest).head? ≠ some d := fun d hd heq =>
        ne_of_isDigit hc hd (Option.some.inj heq)
      exact splitSign_eq (hne '-' rfl) (hne '+' rfl)
  have hchars : ∀ d ∈ if negative then '-' :: c :: rest else c :: rest, InNumeral d := by
    cases negative with
    | true => exact List.forall_mem_cons.mpr ⟨.inr (by decide), h.chars⟩
    | false => exact h.chars
  generalize (if negative then '-' :: c :: rest else c :: rest) = text at hsign hchars
  have hplain : text.map plainDigit = text := (List.map_congr_left fun d hd => (hchars d hd).plain.1).trans (List.map_id' _)
  have hdrop : dropSeparators text = some text := dropSeparators_eq_some fun hmem => (hchars _ hmem).plain.2.2 rfl
  unfold Number.readNumber
  rw [String.toList_ofList, trimChars_eq_self fun d hd => (hchars d hd).plain.2.1, hplain, hdrop]
  simp only [Option.bind_eq_bind, Option.bind_some, hsign, he]
  rw [lower_beq_eq_false hc "inf" rfl rfl, lower_beq_eq_false hc "infinity" rfl rfl, lower_beq_eq_false hc "nan" rfl rfl]
  rfl

end Bodies

/-! ## Numbers -/

/-- However a decimal number is written, its digits and its exponent are what is read. -/
theorem write_eq (layout : Layout) (d : Decimal) : ∃ body,
    d.write layout = String.ofList (if d.negative then '-' :: body else body) ∧ Spells body d.digits d.exponent := by
  have hne : Nat.toDigits 10 d.digits ≠ [] := Nat.toDigits_ne_nil
  refine ⟨_, rfl, ?_⟩
  split
  case isTrue hzero =>
    have hspells := spells_positional (List.cons_ne_nil '0' []) (List.forall_mem_singleton.mpr rfl) layout.pointAlways 0
    rw [hzero]
    refine ⟨hspells.chars, hspells.head, fun negative => ?_⟩
    obtain ⟨e, he, hvalue⟩ := hspells.reads negative
    exact ⟨e, he, hvalue.trans (by simp [Decimal.toRat, digitsValue])⟩
  case isFalse =>
    split
    · have hspells := spells_positional hne isDigit_of_mem_toDigits layout.pointAlways d.exponent
      rw [digitsValue_toDigits] at hspells
      exact hspells
    · have hspells := spells_scientific hne isDigit_of_mem_toDigits d.exponent
      rw [digitsValue_toDigits] at hspells
      exact hspells

theorem readNumber_write (layout : Layout) (d : Decimal) :
    ∃ e, readNumber (d.write layout) = some (.decimal e) ∧ e.toRat = d.toRat := by
  obtain ⟨body, hbody, hspells⟩ := write_eq layout d
  rw [hbody]
  exact hspells.readNumber d.negative

theorem toString_int (n : Int) :
    toString n = String.ofList (if decide (n < 0) then '-' :: Nat.toDigits 10 n.natAbs else Nat.toDigits 10 n.natAbs) := by
  cases n with
  | ofNat n =>
    rw [decide_eq_false (by simp), if_neg Bool.false_ne_true]
    exact Nat.repr_eq_ofList_toDigits
  | negSucc n =>
    rw [decide_eq_true (Int.negSucc_lt_zero n), if_pos rfl, String.ofList_cons]
    exact congrArg ("-" ++ ·) Nat.repr_eq_ofList_toDigits

theorem toRat_int (n : Int) : (⟨decide (n < 0), n.natAbs, 0⟩ : Decimal).toRat = n := by
  change (if decide (n < 0) = true then -1 else 1) * (n.natAbs * 10 ^ (0 : ℤ) : ℚ) = n
  rw [zpow_zero, mul_one, Nat.cast_natAbs]
  by_cases hn : n < 0
  · rw [decide_eq_true hn, if_pos rfl, abs_of_neg hn, Int.cast_neg, neg_mul_neg, one_mul]
  · rw [decide_eq_false hn, if_neg Bool.false_ne_true, abs_of_nonneg (not_lt.mp hn), one_mul]

theorem readNumber_int (n : Int) : ∃ e, readNumber (toString n) = some (.decimal e) ∧ e.toRat = n := by
  have hspells : Spells (Nat.toDigits 10 n.natAbs ++ []) n.natAbs 0 :=
    spells_whole Nat.toDigits_ne_nil isDigit_of_mem_toDigits ending_nil (by rw [digitsValue_toDigits])
  rw [List.append_nil] at hspells
  obtain ⟨e, he, hvalue⟩ := hspells.readNumber (decide (n < 0))
  exact ⟨e, by rw [toString_int]; exact he, hvalue.trans (toRat_int n)⟩

end SupplyGate.Number
