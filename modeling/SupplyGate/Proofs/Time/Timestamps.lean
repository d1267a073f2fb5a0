import Mathlib.Algebra.Group.Nat.Defs
import SupplyGate.Proofs.Number.Numerals
import SupplyGate.Time.Iso8601
import SupplyGate.Time.Timestamp

/-!
# Days of the calendar, and timestamps as they are written

The day that is searched for a number has this number, so a timestamp that is moved by some days is moved by so many day
lengths. The written form of a timestamp is read as this timestamp (`Iso8601.read_format`), with and without
microseconds, and with and without an offset.
-/

namespace SupplyGate

open Calendar Number

/-! ## The calendar -/

/-- Going on to the next month does not lose days. -/
theorem daysBeforeMonth_monthAndDay (year : Nat) : ∀ fuel month day,
    daysBeforeMonth year (monthAndDay year month fuel day).1 + (monthAndDay year month fuel day).2 =
      daysBeforeMonth year month + day
  | 0, _, _ => rfl
  | fuel + 1, month, day => by
    rw [monthAndDay]
    split
    · rfl
    · next hday =>
      rw [daysBeforeMonth_monthAndDay year fuel, daysBeforeMonth]
      omega

theorem Date.of?_eq_some {year month day : Nat} {d : Date} (h : Date.of? year month day = some d) :
    d.year = year ∧ d.month = month ∧ d.day = day := by
  unfold Date.of? at h
  split at h
  · cases h
    exact ⟨rfl, rfl, rfl⟩
  · cases h

theorem Date.ordinal_ofOrdinal? {n : Nat} {d : Date} (h : Date.ofOrdinal? n = some d) : d.ordinal = n := by
  have hmonths := daysBeforeMonth_monthAndDay (yearOf n) 11 1 (n - daysBeforeYear (yearOf n))
  have hfirst : daysBeforeMonth (yearOf n) 1 = 0 := rfl
  unfold Date.ofOrdinal? at h
  dsimp only at h
  generalize monthAndDay (yearOf n) 1 11 (n - daysBeforeYear (yearOf n)) = found at h hmonths
  obtain ⟨hyear, hmonth, hday⟩ := Date.of?_eq_some h
  rw [← hmonth, ← hday, hfirst] at hmonths
  -- the day of month is not 0, so the number lies beyond the years before
  have hpos := d.day_mem.1
  rw [Date.ordinal, hyear]
  omega

namespace Timestamp

variable {t u : Timestamp} {days : Int}

/-- Days later the clock shows the same. -/
theorem addDays?_eq_some (h : t.addDays? days = some u) :
    u = { t with date := u.date } ∧ (u.date.ordinal : Int) = t.date.ordinal + days := by
  unfold addDays? at h
  dsimp only at h
  split at h
  · next hpos =>
    obtain ⟨date, hdate, hu⟩ := Option.bind_eq_some_iff.mp h
    cases hu
    refine ⟨rfl, ?_⟩
    rw [Date.ordinal_ofOrdinal? hdate]
    omega
  · cases h

theorem instant_addDays? (h : t.addDays? days = some u) : u.instant = t.instant + days * dayLength := by
  obtain ⟨hu, hdays⟩ := addDays?_eq_some h
  have hsame : u.sinceMidnight = t.sinceMidnight ∧ u.offset = t.offset := by
    rw [hu]
    exact ⟨rfl, rfl⟩
  have hdate : (u.date.ordinal - 1 : Int) = (t.date.ordinal - 1) + days := by omega
  unfold instant localInstant
  rw [hsame.1, hsame.2, hdate, Int.add_mul]
  omega

end Timestamp

/-! ## Digits -/

namespace Timestamp

theorem isDigit_padded {width n : Nat} {c : Char} (h : c ∈ padded width n) : c.isDigit = true := by
  rcases List.mem_append.mp h with h | h
  · rw [(List.mem_replicate.mp h).2]
    rfl
  · exact isDigit_of_mem_toDigits c h

/-- A padded number has as many digits as asked for, if it fits. -/
theorem length_padded {width n : Nat} (hw : 0 < width) (h : n < 10 ^ width) : (padded width n).length = width := by
  have hle := (Nat.length_toDigits_le_iff (by decide : 1 < 10) hw).mpr h
  rw [padded, List.length_append, List.length_replicate]
  omega

theorem digitsValue_padded (width n : Nat) : digitsValue (padded width n) = n :=
  (digitsValue_zeros_append _ _).trans (digitsValue_toDigits n)

/-- A number below a hundred in two digits. -/
theorem padded_two {n : Nat} (h : n < 100) : ∃ a b, padded 2 n = [a, b] ∧ a.isDigit = true ∧ b.isDigit = true := by
  have hlength : (padded 2 n).length = 2 := length_padded (by decide) h
  match hp : padded 2 n, hlength with
  | [a, b], _ =>
    have hdigit : ∀ c ∈ [a, b], c.isDigit = true := fun c hc => isDigit_padded (hp ▸ hc)
    exact ⟨a, b, rfl, hdigit a (by simp), hdigit b (by simp)⟩

end Timestamp

namespace Iso8601

open Timestamp

theorem isBlank_of_isDigit {c : Char} (h : c.isDigit = true) : isBlank c = false := by
  obtain ⟨hlow, -⟩ := isDigit_bounds h
  have hblank := ne_of_isDigit h (show ' '.isDigit = false from rfl)
  simp only [isBlank, Bool.or_eq_false_iff, beq_eq_false_iff_ne, Bool.and_eq_false_imp, decide_eq_false_iff_not]
  refine ⟨hblank, fun _ hle => ?_⟩
  have hle : c.toNat ≤ 13 := hle
  omega

/-- A run of digits is read as its value. -/
theorem readDigits_eq : ∀ {ds : List Char} (v : Nat), (∀ c ∈ ds, c.isDigit = true) → ds ≠ [] →
    readDigits v ds = some (ds.foldl (fun n c => 10 * n + (c.toNat - 48)) v)
  | [], _, _, h => absurd rfl h
  | [c], v, h, _ => by simp [readDigits, h c (by simp)]
  | c :: d :: ds, v, h, _ => by
    have hd := ne_of_isDigit (h d (by simp)) (show '_'.isDigit = false from rfl)
    have hrest := readDigits_eq (10 * v + (c.toNat - 48)) (List.forall_mem_cons.mp h).2 (List.cons_ne_nil d ds)
    rw [readDigits, if_pos (h c (by simp)), hrest, List.foldl_cons]
    · rfl
    · intro hnil
      cases hnil
    · intro _ hcons
      exact hd (List.cons.inj hcons).1

/-- A component of digits only is their value. -/
theorem component_eq {ds : List Char} (h : ∀ c ∈ ds, c.isDigit = true) (hne : ds ≠ []) :
    component ds = some (digitsValue ds : Int) := by
  have hdrop : ∀ l : List Char, (∀ c ∈ l, c.isDigit = true) → l.dropWhile isBlank = l := fun l hl => by
    cases l with
    | nil => rfl
    | cons c l => rw [List.dropWhile_cons, isBlank_of_isDigit (hl c List.mem_cons_self)]; rfl
  have htrim : ((ds.dropWhile isBlank).reverse.dropWhile isBlank).reverse = ds := by
    rw [hdrop ds h, hdrop ds.reverse fun c hc => h c (List.mem_reverse.mp hc), List.reverse_reverse]
  have hread := readDigits_eq 0 h hne
  unfold component
  rw [htrim]
  dsimp only
  split
  · exact absurd rfl (ne_of_isDigit (h _ (by simp)) (show '-'.isDigit = false from rfl))
  · exact absurd rfl (ne_of_isDigit (h _ (by simp)) (show '+'.isDigit = false from rfl))
  · rw [hread]
    rfl

theorem component_padded (width n : Nat) : component (padded width n) = some (n : Int) := by
  have hne : padded width n ≠ [] := fun hnil => Nat.toDigits_ne_nil (List.append_eq_nil_iff.mp hnil).2
  rw [component_eq (fun c => isDigit_padded) hne, digitsValue_padded]

/-! ## Days -/

theorem readCivil_formatDate (d : Date) (rest : List Char) :
    readCivil (formatDate d ++ rest) = some (civilOf d, rest) := by
  have hyear : d.year < 10 ^ 4 := Nat.lt_succ_of_le d.year_mem.2
  have hmonth : d.month < 100 := Nat.lt_of_le_of_lt d.month_mem.2 (by decide)
  have hday : d.day < 100 := by
    have hle : Calendar.daysInMonth d.year d.month ≤ 31 := by
      unfold Calendar.daysInMonth
      split <;> first | split | skip
      all_goals omega
    have := d.day_mem.2
    omega
  have hlength := length_padded (by decide) hyear
  obtain ⟨m, m', hm, -, -⟩ := padded_two hmonth
  obtain ⟨e, e', he, -, -⟩ := padded_two hday
  have hmonths := component_padded 2 d.month
  have hdays := component_padded 2 d.day
  rw [hm] at hmonths
  rw [he] at hdays
  have hform : formatDate d ++ rest = padded 4 d.year ++ ('-' :: m :: m' :: '-' :: e :: e' :: rest) := by
    simp [formatDate, hm, he]
  unfold readCivil
  rw [hform, List.take_left' hlength, List.drop_left' hlength, component_padded]
  simp [hlength, hmonths, hdays, civilOf]

/-! ## Times of day -/

theorem readOffset_formatOffset (o : Offset) : readOffset (formatOffset (some o)) = some o.minutes := by
  obtain ⟨hlow, hhigh⟩ := o.bounded
  have hbound : o.minutes.natAbs < 1440 := by omega
  have hhours : o.minutes.natAbs / 60 < 100 := by omega
  have hminutes : o.minutes.natAbs % 60 < 100 := by omega
  obtain ⟨h, h', hh, -, -⟩ := padded_two hhours
  obtain ⟨m, m', hm, -, -⟩ := padded_two hminutes
  have hreadHours := component_padded 2 (o.minutes.natAbs / 60)
  have hreadMinutes := component_padded 2 (o.minutes.natAbs % 60)
  rw [hh] at hreadHours
  rw [hm] at hreadMinutes
  have hform : formatOffset (some o) = (if o.minutes < 0 then '-' else '+') :: [h, h', ':', m, m'] := by
    simp [formatOffset, hh, hm]
  rw [hform]
  unfold readOffset
  generalize hn : o.minutes.natAbs = n at *
  have hfits : ¬(59 < (n : Int) % 60 ∨ 23 < (n : Int) / 60) := by omega
  have hvalue : (n : Int) / 60 * 60 + (n : Int) % 60 = n := by omega
  by_cases hneg : o.minutes < 0
  · simp only [hneg, if_true]
    simp [hreadHours, hreadMinutes, hfits, hvalue]
    split <;> exact congrArg some (by omega)
  · simp only [hneg, if_false]
    simp [hreadHours, hreadMinutes, hfits, hvalue]
    split <;> exact congrArg some (by omega)

/-- What may follow the time of day: nothing, or an offset. -/
theorem formatOffset_head (o : Option Offset) :
    formatOffset o = [] ∨ ∃ c rest, formatOffset o = c :: rest ∧ (c = '-' ∨ c = '+') := by
  cases o with
  | none => exact .inl rfl
  | some o =>
    refine .inr ⟨_, _, rfl, ?_⟩
    split
    · exact .inl rfl
    · exact .inr rfl

/-- An offset, if there is one, ends a time of day. -/
theorem readClockFrom_formatOffset (steps index : Nat) (colons : Bool) (clock : Clock) (o : Option Offset)
    (ho : clock.offset = none) :
    readClockFrom (steps + 1) index colons clock (formatOffset o) =
      some { clock with offset := o.map (·.minutes) } := by
  cases o with
  | none =>
    cases clock
    cases ho
    rfl
  | some o =>
    have hread := readOffset_formatOffset o
    rcases formatOffset_head (some o) with hnil | ⟨c, rest, hcons, hc⟩
    · cases hnil
    · rw [hcons] at hread ⊢
      have hmark : (c == '-' || c == '+' || c == 'Z' || c == 'z') = true := by
        rcases hc with rfl | rfl <;> rfl
      rw [readClockFrom, if_pos hmark, hread]
      rfl

/-- A digit is no mark of an offset. -/
theorem mark_of_isDigit {c : Char} (h : c.isDigit = true) : (c == '-' || c == '+' || c == 'Z' || c == 'z') = false := by
  have hne : ∀ d : Char, d.isDigit = false → (c == d) = false := fun d hd => beq_false_of_ne (ne_of_isDigit h hd)
  rw [hne '-' rfl, hne '+' rfl, hne 'Z' rfl, hne 'z' rfl]
  rfl

/-- The hours begin a time of day. -/
theorem readClockFrom_hours (steps : Nat) {n : Nat} (hn : n < 100) (clock : Clock) (rest : List Char) :
    readClockFrom (steps + 1) 0 false clock (padded 2 n ++ rest) =
      readClockFrom steps 1 false (clock.set 0 n) rest := by
  obtain ⟨a, b, hab, ha, -⟩ := padded_two hn
  have hread := component_padded 2 n
  rw [hab] at hread ⊢
  have hcolon : readColon 0 false (a :: b :: rest) = some (false, a :: b :: rest) := by
    have hne := ne_of_isDigit ha (show ':'.isDigit = false from rfl)
    unfold readColon
    split
    · next h => exact absurd (List.cons.inj h).1 hne
    · rfl
  rw [List.cons_append, readClockFrom, if_neg (by rw [mark_of_isDigit ha]; decide)]
  simp [hcolon, hread]

/-- A colon and two digits go on with a time of day. -/
theorem readClockFrom_colon (steps : Nat) {index n : Nat} {colons : Bool}
    (hindex : index = 1 ∧ colons = false ∨ index = 2 ∧ colons = true) (hn : n < 100) (clock : Clock) (rest : List Char) :
    readClockFrom (steps + 1) index colons clock (':' :: (padded 2 n ++ rest)) =
      readClockFrom steps (index + 1) true (clock.set index n) rest := by
  obtain ⟨a, b, hab, -, -⟩ := padded_two hn
  have hread := component_padded 2 n
  rw [hab] at hread ⊢
  rw [readClockFrom, if_neg (by decide)]
  rcases hindex with ⟨rfl, rfl⟩ | ⟨rfl, rfl⟩ <;> simp [readColon, hread]

/-- The microseconds, if there are any. -/
theorem readClockFrom_micro (micro : Fin 1000000) (clock : Clock) (o : Option Offset) (hmicro : clock.micro = 0)
    (ho : clock.offset = none) :
    readClockFrom 3 3 true clock ((if micro.val = 0 then [] else '.' :: padded 6 micro) ++ formatOffset o) =
      some { clock with micro := micro.val, offset := o.map (·.minutes) } := by
  split
  · next hzero =>
    rw [List.nil_append, readClockFrom_formatOffset _ _ _ _ _ ho, hzero]
    cases clock
    cases hmicro
    rfl
  · have hlength : (padded 6 micro.val).length = 6 := length_padded (by decide) micro.isLt
    have htake : (padded 6 micro.val ++ formatOffset o).takeWhile Char.isDigit = padded 6 micro.val := by
      rw [List.takeWhile_append_of_pos fun c => isDigit_padded]
      rcases formatOffset_head o with hnil | ⟨c, rest, hcons, rfl | rfl⟩
      · rw [hnil, List.takeWhile_nil, List.append_nil]
      · rw [hcons, List.takeWhile_cons_of_neg (by decide), List.append_nil]
      · rw [hcons, List.takeWhile_cons_of_neg (by decide), List.append_nil]
    have hdrop : (padded 6 micro.val ++ formatOffset o).dropWhile Char.isDigit = formatOffset o := by
      have happend := List.takeWhile_append_dropWhile (p := Char.isDigit) (l := padded 6 micro.val ++ formatOffset o)
      rw [htake] at happend
      exact List.append_cancel_left happend
    have hfraction : fractionValue 6 (padded 6 micro.val) = micro.val := by
      unfold fractionValue
      rw [List.take_of_length_le (by omega)]
      simp [hlength, digitsValue_padded]
    have hempty : (padded 6 micro.val).isEmpty = false := by
      cases hp : padded 6 micro.val with
      | nil => simp [hp] at hlength
      | cons => rfl
    have hread : readFraction ('.' :: (padded 6 micro.val ++ formatOffset o)) = some (micro.val, formatOffset o) := by
      unfold readFraction
      dsimp only
      rw [htake, hdrop, hfraction, hempty]
      rfl
    rw [List.cons_append, readClockFrom, if_neg (by decide)]
    have hcolon : readColon 3 true ('.' :: (padded 6 micro.val ++ formatOffset o)) =
        some (true, '.' :: (padded 6 micro.val ++ formatOffset o)) := rfl
    simp only [hcolon, Option.bind_eq_bind, Option.bind_some]
    rw [if_neg (by decide), if_pos trivial]
    simp only [hread]
    exact readClockFrom_formatOffset _ _ _ _ _ ho

/-- The time of day of a timestamp, as it is written. -/
theorem readClock_format (t : Timestamp) :
    readClock (padded 2 t.hour ++ ':' :: padded 2 t.minute ++ ':' :: padded 2 t.second ++
      (if t.micro.val = 0 then [] else '.' :: padded 6 t.micro) ++ formatOffset t.offset) =
      some ⟨t.hour.val, t.minute.val, t.second.val, t.micro.val, t.offset.map (·.minutes)⟩ := by
  have hhour : t.hour.val < 100 := by omega
  have hminute : t.minute.val < 100 := by omega
  have hsecond : t.second.val < 100 := by omega
  obtain ⟨a, b, hab, -, -⟩ := padded_two hhour
  unfold readClock
  rw [if_neg (by simp [hab])]
  simp only [List.append_assoc, List.cons_append]
  rw [readClockFrom_hours 5 hhour, readClockFrom_colon 4 (.inl ⟨rfl, rfl⟩) hminute,
    readClockFrom_colon 3 (.inr ⟨rfl, rfl⟩) hsecond, readClockFrom_micro]
  · rfl
  · rfl
  · rfl

/-! ## Timestamps -/

theorem fin?_val {bound : Nat} (n : Fin bound) : fin? bound (n.val : Int) = some n := by
  unfold fin?
  rw [dif_pos ⟨Int.natCast_nonneg _, by simp⟩]
  simp

theorem Offset.of?_minutes (o : Offset) : Offset.of? o.minutes = some o := by
  unfold Offset.of?
  rw [dif_pos o.bounded]

theorem dateOf?_civilOf (d : Date) : dateOf? d.year d.month d.day = some d := by
  unfold dateOf? Date.of?
  rw [if_neg (by simp)]
  simp only [Int.toNat_natCast]
  rw [dif_pos ⟨d.year_mem, d.month_mem, d.day_mem⟩]

theorem padded_ascii (width n : Nat) : (padded width n).any (128 ≤ ·.toNat) = false := by
  refine List.any_eq_false.mpr fun c hc => ?_
  have hbounds := isDigit_bounds (isDigit_padded hc)
  simp only [decide_eq_true_eq]
  omega

theorem formatWith_ascii (t : Timestamp) : (t.formatWith 'T').any (128 ≤ ·.toNat) = false := by
  have hoffset : (formatOffset t.offset).any (128 ≤ ·.toNat) = false := by
    cases t.offset with
    | none => rfl
    | some o =>
      simp only [formatOffset, List.cons_append, List.any_cons, List.any_append, padded_ascii]
      split <;> rfl
  have hmicro : (if t.micro.val = 0 then [] else '.' :: padded 6 t.micro).any (128 ≤ ·.toNat) = false := by
    split
    · rfl
    · rw [List.any_cons, padded_ascii]
      rfl
  simp only [formatWith, formatDate, List.any_append, List.any_cons, padded_ascii, hoffset, hmicro]
  rfl

theorem ok_bind {ε α β : Type} (a : α) (f : α → Except ε β) : (Except.ok a >>= f) = f a := rfl

/-- The components of a timestamp give it again. -/
theorem assemble_civilOf (t : Timestamp) : assemble (civilOf t.date)
    ⟨t.hour.val, t.minute.val, t.second.val, t.micro.val, t.offset.map (·.minutes)⟩ = .ok t := by
  have hnext : ((t.hour.val : Int) == 24) = false := beq_false_of_ne (by omega)
  obtain ⟨date, hour, minute, second, micro, offset⟩ := t
  unfold assemble
  simp only [hnext, civilOf, dateOf?_civilOf, Bool.false_and, Bool.false_eq_true, if_false, fin?_val, orMalformed, ok_bind]
  cases offset with
  | none => rfl
  | some o => simp only [Option.map_some, Offset.of?_minutes, ok_bind]

/-- **A timestamp is read as it is written.** -/
theorem read_format (t : Timestamp) : read t.format = .ok t := by
  have hform : t.formatWith 'T' = formatDate t.date ++ ('T' :: (padded 2 t.hour ++ ':' :: padded 2 t.minute ++
      ':' :: padded 2 t.second ++ (if t.micro.val = 0 then [] else '.' :: padded 6 t.micro) ++
      formatOffset t.offset)) := by
    simp [formatWith]
  rw [read, format, String.toList_ofList, readChars, formatWith_ascii, hform, readDate, readCivil_formatDate]
  simp only [Bool.false_eq_true, if_false, ok_bind, readClock_format, orMalformed]
  exact assemble_civilOf t

end Iso8601

end SupplyGate
