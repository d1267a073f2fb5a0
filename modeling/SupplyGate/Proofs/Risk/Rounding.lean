import Mathlib.Data.Rat.Floor
import Mathlib.Tactic.Linarith
import SupplyGate.Proofs.Number.DecimalText
import SupplyGate.Proofs.Value.Reading
import SupplyGate.Risk.Score

/-!
# Rounding half up

Each number has one nearest integer, if of two nearest ones the one of larger magnitude is taken (`HalfUp`). It changes
its sign with the number, does not fall when the number grows, and is the number itself where this is an integer.

A decimal number is rounded to this integer unless that has too many digits (`Decimal.halfUp?_eq_some_iff`), and so is
an integer or a float by its text (`roundHalfUp_lawful`).
-/

namespace SupplyGate

/-! ## Nearest integers -/

/-- An integer that is nearest to a number, and of two nearest ones the one of larger magnitude. -/
structure HalfUp (q : ℚ) (n : ℤ) : Prop where
  near : |(n : ℚ) - q| ≤ 1 / 2
  tie : |(n : ℚ) - q| = 1 / 2 → |q| < |(n : ℚ)|

namespace HalfUp

variable {p q : ℚ} {m n : ℤ}

theorem neg (h : HalfUp q n) : HalfUp (-q) (-n) := by
  have hdistance : |((-n : ℤ) : ℚ) - -q| = |(n : ℚ) - q| := by
    rw [Int.cast_neg, neg_sub_neg, abs_sub_comm]
  refine ⟨hdistance.trans_le h.near, fun htie => ?_⟩
  rw [Int.cast_neg, abs_neg, abs_neg]
  exact h.tie (hdistance.symm.trans htie)

theorem intCast (n : ℤ) : HalfUp n n where
  near := by norm_num
  tie := by norm_num

/-- Of a number that is not negative, half is added and the fraction cut off. -/
theorem iff_floor (hq : 0 ≤ q) : HalfUp q n ↔ ⌊q + 1 / 2⌋ = n := by
  rw [Int.floor_eq_iff]
  constructor
  · intro h
    obtain ⟨hlow, hhigh⟩ := abs_le.mp h.near
    refine ⟨by linarith, ?_⟩
    by_contra hover
    -- The number would lie half way between `n` and a larger integer.
    have hhalf : (n : ℚ) - q = -(1 / 2) := by linarith
    have hn : 0 ≤ n := by
      have hn : (-1 : ℚ) < n := by linarith
      exact_mod_cast hn
    have htie := h.tie (by rw [hhalf, abs_neg, abs_of_pos (by norm_num)])
    rw [abs_of_nonneg hq, abs_of_nonneg (Int.cast_nonneg hn)] at htie
    linarith
  · rintro ⟨hlow, hhigh⟩
    refine ⟨abs_le.mpr ⟨by linarith, by linarith⟩, fun htie => ?_⟩
    have hhalf : (n : ℚ) - q = 1 / 2 := by
      rcases (abs_eq (by norm_num)).mp htie with h | h
      · exact h
      · linarith
    rw [abs_of_nonneg hq, abs_of_nonneg (by linarith)]
    linarith

theorem nonneg (h : HalfUp q n) (hq : 0 ≤ q) : 0 ≤ n := by
  rw [← (iff_floor hq).mp h]
  exact Int.floor_nonneg.mpr (by linarith)

theorem exists_halfUp (q : ℚ) : ∃ n, HalfUp q n := by
  rcases le_total 0 q with hq | hq
  · exact ⟨_, (iff_floor hq).mpr rfl⟩
  · have hneg := ((iff_floor (neg_nonneg.mpr hq)).mpr rfl).neg
    rw [neg_neg] at hneg
    exact ⟨_, hneg⟩

theorem mono_of_nonneg (hp : HalfUp p m) (hq : HalfUp q n) (hnonneg : 0 ≤ p) (h : p ≤ q) : m ≤ n := by
  rw [← (iff_floor hnonneg).mp hp, ← (iff_floor (hnonneg.trans h)).mp hq]
  exact Int.floor_le_floor (by linarith)

theorem mono (hp : HalfUp p m) (hq : HalfUp q n) (h : p ≤ q) : m ≤ n := by
  rcases le_total 0 p with hp0 | hp0
  · exact hp.mono_of_nonneg hq hp0 h
  rcases le_total 0 q with hq0 | hq0
  · have hm := hp.neg.nonneg (neg_nonneg.mpr hp0)
    have hn := hq.nonneg hq0
    omega
  · have hneg := hq.neg.mono_of_nonneg hp.neg (neg_nonneg.mpr hq0) (neg_le_neg h)
    omega

theorem unique (hm : HalfUp q m) (hn : HalfUp q n) : m = n :=
  le_antisymm (hm.mono hn le_rfl) (hn.mono hm le_rfl)

end HalfUp

/-! ## Decimal numbers -/

namespace Number

theorem tenTo_pos (k : Nat) : 0 < tenTo k := Nat.pow_pos (by decide)

theorem ten_zpow {x : ℤ} (hx : 0 ≤ x) : (10 : ℚ) ^ x = tenTo x.toNat := by
  have hcast : ((10 ^ x.toNat : ℕ) : ℚ) = 10 ^ x.toNat := Nat.cast_pow 10 _
  rw [← Int.toNat_of_nonneg hx, zpow_natCast, ← hcast, Int.toNat_natCast]
  rfl

theorem lt_tenTo_digitCount (n : Nat) : n < tenTo (digitCount n) :=
  (digitCount_le_iff Nat.length_toDigits_pos).mp le_rfl

theorem tenTo_le_of_lt_digitCount {n k : Nat} (hn : n ≠ 0) (hk : k < digitCount n) : tenTo k ≤ n := by
  rcases Nat.eq_zero_or_pos k with rfl | hpos
  · exact Nat.one_le_iff_ne_zero.mpr hn
  · exact not_lt.mp fun hlt => absurd ((digitCount_le_iff hpos).mpr hlt) (by omega)

namespace Decimal

variable {d : Decimal} {n : ℤ}

theorem halfUp_halfUpMagnitude (d : Decimal) : HalfUp (d.digits * 10 ^ d.exponent) d.halfUpMagnitude := by
  unfold halfUpMagnitude
  split
  case isTrue hexponent =>
    have hvalue : (d.digits * 10 ^ d.exponent : ℚ) = ((d.digits * tenTo d.exponent.toNat : ℕ) : ℤ) := by
      rw [ten_zpow hexponent, Int.cast_natCast, Nat.cast_mul]
    rw [hvalue]
    exact HalfUp.intCast _
  case isFalse hexponent =>
    have hvalue : (d.digits * 10 ^ d.exponent : ℚ) = d.digits / tenTo (-d.exponent).toNat := by
      rw [← ten_zpow (by omega), zpow_neg, div_inv_eq_mul]
    have hsum : (d.digits * 10 ^ d.exponent + 1 / 2 : ℚ) =
        (2 * d.digits + tenTo (-d.exponent).toNat : ℕ) / (2 * tenTo (-d.exponent).toNat : ℕ) := by
      have hunit : (tenTo (-d.exponent).toNat : ℚ) ≠ 0 := Nat.cast_ne_zero.mpr (tenTo_pos _).ne'
      rw [hvalue]
      push_cast
      field_simp
    have hnonneg : (0 : ℚ) ≤ d.digits * 10 ^ d.exponent :=
      mul_nonneg (Nat.cast_nonneg _) (zpow_nonneg (by norm_num) _)
    rw [HalfUp.iff_floor hnonneg, hsum, Rat.floor_natCast_div_natCast]
    rfl

/-- The rounded number: the rounded magnitude with the sign. -/
def rounded (d : Decimal) : ℤ := if d.negative then -d.halfUpMagnitude else d.halfUpMagnitude

theorem halfUp_rounded (d : Decimal) : HalfUp d.toRat d.rounded := by
  have h := halfUp_halfUpMagnitude d
  unfold toRat rounded
  cases d.negative with
  | true => simpa using h.neg
  | false => simpa using h

/-- A number without a digit before its point or right after it is rounded to zero. -/
theorem halfUpMagnitude_eq_zero (h : d.digits = 0 ∨ (digitCount d.digits : ℤ) + d.exponent < 0) :
    d.halfUpMagnitude = 0 := by
  unfold halfUpMagnitude
  rcases h with hzero | hsize
  · have hunit := tenTo_pos (-d.exponent).toNat
    rw [hzero]
    split
    · exact Nat.zero_mul _
    · exact Nat.div_eq_of_lt (by omega)
  · rw [if_neg (by omega)]
    obtain ⟨k, hk⟩ : ∃ k, (-d.exponent).toNat = k + 1 := ⟨(-d.exponent).toNat - 1, by omega⟩
    have hdigits : d.digits < tenTo k := (lt_tenTo_digitCount d.digits).trans_le (Nat.pow_le_pow_right (by decide) (by omega))
    have hunit : tenTo (k + 1) = tenTo k * 10 := Nat.pow_succ ..
    rw [hk]
    exact Nat.div_eq_of_lt (by omega)

/-- A number with many digits before its point is rounded to one that has no fewer. -/
theorem tenTo_le_halfUpMagnitude (hne : d.digits ≠ 0) {k : Nat} (h : (k : ℤ) < digitCount d.digits + d.exponent) :
    tenTo k ≤ d.halfUpMagnitude := by
  have hcount : 0 < digitCount d.digits := Nat.length_toDigits_pos
  unfold halfUpMagnitude
  split
  case isTrue hexponent =>
    have hdigits : tenTo (k - d.exponent.toNat) ≤ d.digits := tenTo_le_of_lt_digitCount hne (by omega)
    calc tenTo k ≤ tenTo (k - d.exponent.toNat + d.exponent.toNat) := Nat.pow_le_pow_right (by decide) (by omega)
      _ = tenTo (k - d.exponent.toNat) * tenTo d.exponent.toNat := Nat.pow_add ..
      _ ≤ d.digits * tenTo d.exponent.toNat := Nat.mul_le_mul_right _ hdigits
  case isFalse hexponent =>
    have hdigits : tenTo (k + (-d.exponent).toNat) ≤ d.digits := tenTo_le_of_lt_digitCount hne (by omega)
    have hunit : tenTo (k + (-d.exponent).toNat) = tenTo k * tenTo (-d.exponent).toNat := Nat.pow_add ..
    have hpos := tenTo_pos (-d.exponent).toNat
    refine (Nat.le_div_iff_mul_le (by omega)).mpr ?_
    rw [hunit] at hdigits
    rw [Nat.mul_left_comm]
    omega

theorem halfUp?_eq (d : Decimal) :
    d.halfUp? = if digitCount d.halfUpMagnitude ≤ precision then some d.rounded else none := by
  unfold halfUp?
  dsimp only
  split
  case isTrue hsmall =>
    have hzero : d.halfUpMagnitude = 0 := halfUpMagnitude_eq_zero (by simpa using hsmall)
    rw [rounded, hzero, if_pos (by decide)]
    simp
  case isFalse hsmall =>
    have hne : d.digits ≠ 0 := fun hzero => hsmall (by simp [hzero])
    split
    case isTrue hlarge =>
      have hmagnitude := tenTo_le_halfUpMagnitude hne hlarge
      rw [if_neg fun hcount => absurd ((digitCount_le_iff (by decide)).mp hcount) (not_lt.mpr hmagnitude)]
    case isFalse =>
      simp only [← not_le, ite_not]
      rfl

/-- A decimal number is rounded to the nearest integer, unless that has too many digits. -/
theorem halfUp?_eq_some_iff : d.halfUp? = some n ↔ HalfUp d.toRat n ∧ digitCount n.natAbs ≤ precision := by
  have hmagnitude : d.rounded.natAbs = d.halfUpMagnitude := by
    unfold rounded
    split <;> simp
  rw [halfUp?_eq, ← hmagnitude]
  constructor
  · intro h
    obtain ⟨hcount, hn⟩ := Option.ite_none_right_eq_some.mp h
    obtain rfl := Option.some.inj hn
    exact ⟨d.halfUp_rounded, hcount⟩
  · rintro ⟨hn, hcount⟩
    obtain rfl := hn.unique d.halfUp_rounded
    rw [if_pos hcount]

example : halfUp? ⟨true, 25, -1⟩ = some (-3) := by decide

end Decimal

end Number

/-! ## Numbers -/

open Number (Decimal digitCount precision)

/-- An integer, or a float that is a number and not infinite. -/
inductive FiniteNumber : Value → Prop where
  | int (n : Int) : FiniteNumber (.int n)
  | float {x : Float} {q : ℚ} (finite : Number.Extended.ofFloat x = .finite q) : FiniteNumber (.float x)

/-- The text of a number stands for this decimal number. -/
def Denotes (v : Value) (d : Decimal) : Prop := Number.readNumber v.rendered = some (.decimal d)

theorem Denotes.unique {v : Value} {d e : Decimal} (hd : Denotes v d) (he : Denotes v e) : d = e :=
  Number.Numeral.decimal.inj (Option.some.inj (hd.symm.trans he))

/-- What the rounding of a decimal number comes to. -/
def roundDecimal (d : Decimal) : Reading Int :=
  match d.halfUp? with
  | some n => .ok n
  | none => .error .tooManyDigits

theorem roundDecimal_of_le {d : Decimal} {n : ℤ} (hn : HalfUp d.toRat n) (hcount : digitCount n.natAbs ≤ precision) :
    roundDecimal d = .ok n := by
  rw [roundDecimal, Decimal.halfUp?_eq_some_iff.mpr ⟨hn, hcount⟩]

theorem roundDecimal_of_lt {d : Decimal} {n : ℤ} (hn : HalfUp d.toRat n) (hcount : precision < digitCount n.natAbs) :
    roundDecimal d = .error .tooManyDigits := by
  unfold roundDecimal
  split
  · next m hm =>
    obtain ⟨hm, hfew⟩ := Decimal.halfUp?_eq_some_iff.mp hm
    obtain rfl := hm.unique hn
    omega
  · rfl

theorem roundHalfUp_float {x : Float} {q : ℚ} (h : Number.Extended.ofFloat x = .finite q) :
    roundHalfUp (.float x) = roundDecimal (.ofFloat x) := by
  simp only [roundHalfUp, h]
  rfl

theorem roundHalfUp_int (n : Int) :
    roundHalfUp (.int n) =
      if Number.digitLimit < digitCount n.natAbs then .error .longNumber
      else roundDecimal ⟨decide (n < 0), n.natAbs, 0⟩ := by
  have hwritable : (Value.int n).isWritable = decide (digitCount n.natAbs ≤ Number.digitLimit) := rfl
  by_cases hlimit : Number.digitLimit < digitCount n.natAbs
  · rw [if_pos hlimit, roundHalfUp, Value.text_unwritable (by rw [hwritable, decide_eq_false (Nat.not_le.mpr hlimit)])]
    rfl
  · rw [if_neg hlimit, roundHalfUp, Value.text_writable (by rw [hwritable, decide_eq_true (Nat.not_lt.mp hlimit)])]
    rfl

theorem denotes_int (n : Int) : ∃ d, Denotes (.int n) d ∧ d.toRat = n := Number.readNumber_int n

theorem denotes_float {x : Float} {q : ℚ} (h : Number.Extended.ofFloat x = .finite q) :
    ∃ d, Denotes (.float x) d ∧ d.toRat = (Decimal.ofFloat x).toRat := by
  have htext : (Value.float x).rendered = (Decimal.ofFloat x).write Number.plainLayout := by
    change Number.floatText x = _
    rw [Number.floatText, h]
  unfold Denotes
  rw [htext]
  exact Number.readNumber_write Number.plainLayout (.ofFloat x)

namespace FiniteNumber

variable {v : Value} {d : Decimal} {n : ℤ}

theorem denotes (h : FiniteNumber v) : ∃ d, Denotes v d := by
  cases h with
  | int m => exact (denotes_int m).imp fun _ hd => hd.1
  | float finite => exact (denotes_float finite).imp fun _ hd => hd.1

/-- A finite number is rounded to the integer nearest to what its text stands for. -/
theorem rounds (h : FiniteNumber v) (hd : Denotes v d) (hn : HalfUp d.toRat n) :
    (digitCount n.natAbs ≤ precision → roundHalfUp v = .ok n) ∧
      (precision < digitCount n.natAbs →
        roundHalfUp v = .error .tooManyDigits ∨ roundHalfUp v = .error .longNumber) := by
  cases h with
  | int m =>
    obtain ⟨d', hd', hvalue⟩ := denotes_int m
    obtain rfl := hd.unique hd'
    rw [hvalue] at hn
    obtain rfl := hn.unique (.intCast m)
    rw [← Number.toRat_int n] at hn
    rw [roundHalfUp_int]
    constructor
    · intro hcount
      have hlimit : ¬ Number.digitLimit < digitCount n.natAbs := not_lt.mpr (hcount.trans (by decide))
      rw [if_neg hlimit, roundDecimal_of_le hn hcount]
    · intro hcount
      split
      · exact .inr rfl
      · exact .inl (roundDecimal_of_lt hn hcount)
  | @float x q finite =>
    obtain ⟨d', hd', hvalue⟩ := denotes_float finite
    obtain rfl := hd.unique hd'
    rw [hvalue] at hn
    rw [roundHalfUp_float finite]
    exact ⟨roundDecimal_of_le hn, fun hcount => .inl (roundDecimal_of_lt hn hcount)⟩

theorem ok_iff (h : FiniteNumber v) (hd : Denotes v d) :
    roundHalfUp v = .ok n ↔ HalfUp d.toRat n ∧ digitCount n.natAbs ≤ precision := by
  constructor
  · intro hn
    obtain ⟨k, hk⟩ := HalfUp.exists_halfUp d.toRat
    rcases le_or_gt (digitCount k.natAbs) precision with hcount | hcount
    · obtain rfl : k = n := Except.ok.inj (((h.rounds hd hk).1 hcount).symm.trans hn)
      exact ⟨hk, hcount⟩
    · rcases (h.rounds hd hk).2 hcount with hfault | hfault
      · cases hfault.symm.trans hn
      · cases hfault.symm.trans hn
  · rintro ⟨hn, hcount⟩
    exact (h.rounds hd hn).1 hcount

end FiniteNumber

/-- The laws of rounding half up, for the decimal numbers that the texts of finite numbers stand for. -/
structure RoundingLaws : Prop where
  /-- Each number has one nearest integer, of two nearest ones the one of larger magnitude. -/
  nearest : ∀ q, ∃! n, HalfUp q n
  /-- A decimal number of any sign, digits and exponent is rounded to it, unless it has too many digits. -/
  decimals : ∀ {d : Decimal} {n}, d.halfUp? = some n ↔ HalfUp d.toRat n ∧ digitCount n.natAbs ≤ precision
  /-- The text of a finite number stands for a decimal number. -/
  denotes : ∀ {v}, FiniteNumber v → ∃ d, Denotes v d
  /-- This integer is the result and no other, as long as it has few enough digits. -/
  rounds : ∀ {v d n}, FiniteNumber v → Denotes v d →
    (roundHalfUp v = .ok n ↔ HalfUp d.toRat n ∧ digitCount n.natAbs ≤ precision)
  /-- With more digits it is refused. -/
  refuses : ∀ {v d n}, FiniteNumber v → Denotes v d → HalfUp d.toRat n → precision < digitCount n.natAbs →
    roundHalfUp v = .error .tooManyDigits ∨ roundHalfUp v = .error .longNumber
  /-- The opposite number has the opposite result. -/
  odd : ∀ {v w d e n}, FiniteNumber v → FiniteNumber w → Denotes v d → Denotes w e → e.toRat = -d.toRat →
    roundHalfUp v = .ok n → roundHalfUp w = .ok (-n)
  /-- A larger number has no smaller result. -/
  monotone : ∀ {v w d e m n}, FiniteNumber v → FiniteNumber w → Denotes v d → Denotes w e → d.toRat ≤ e.toRat →
    roundHalfUp v = .ok m → roundHalfUp w = .ok n → m ≤ n
  /-- An integer, in whatever form, is its own result. -/
  integers : ∀ {v d} {n : ℤ}, FiniteNumber v → Denotes v d → d.toRat = n → digitCount n.natAbs ≤ precision →
    roundHalfUp v = .ok n

/-- **Rounding is exact.** Integers, floats and decimal numbers of any sign, digits and exponent are rounded to their
nearest integer, of two to the one of larger magnitude, and refused where it would have too many digits. -/
theorem roundHalfUp_lawful : RoundingLaws where
  nearest := fun q => by
    obtain ⟨n, hn⟩ := HalfUp.exists_halfUp q
    exact ⟨n, hn, fun m hm => hm.unique hn⟩
  decimals := Decimal.halfUp?_eq_some_iff
  denotes := FiniteNumber.denotes
  rounds := FiniteNumber.ok_iff
  refuses := fun h hd hn => (h.rounds hd hn).2
  odd := fun {v w d e n} h h' hd he heq hn => by
    obtain ⟨hn, hcount⟩ := (h.ok_iff hd).mp hn
    refine (h'.ok_iff he).mpr ⟨heq ▸ hn.neg, ?_⟩
    rw [Int.natAbs_neg]
    exact hcount
  monotone := fun h h' hd he hle hm hn => ((h.ok_iff hd).mp hm).1.mono ((h'.ok_iff he).mp hn).1 hle
  integers := fun {v d n} h hd heq hcount => (h.ok_iff hd).mpr ⟨heq ▸ .intCast n, hcount⟩

end SupplyGate
