import Mathlib.Data.List.Basic
import SupplyGate.Policy.Version
import SupplyGate.Proofs.Number.Numerals
import SupplyGate.Proofs.Value.Faults
import SupplyGate.Proofs.Value.Reading

/-!
# Versions and their numbers

A version has three numbers, the values of its first three parts. Raising a version keeps the first two and counts the
last one up, so the numbers of the result come after those of the version (`bumps_iff`). It fails just where a part
looks like a number and cannot be read as one, which superscripts and other digits that are no decimal digits do, or
where a number gets too long.
-/

namespace SupplyGate.Version

open Number Text Reading

/-! ## Numbers -/

/-- The three numbers of a version. -/
structure Numbers where
  major : Nat
  minor : Nat
  patch : Nat

namespace Numbers

/-- Lexicographic order: the first of the numbers that differs decides. -/
def Before (x y : Numbers) : Prop :=
  x.major < y.major ∨ x.major = y.major ∧ (x.minor < y.minor ∨ x.minor = y.minor ∧ x.patch < y.patch)

/-- The numbers in decimal digits, with points between them. -/
def text (x : Numbers) : String := s!"{x.major}.{x.minor}.{x.patch}"

/-- The numbers after some changes of the rules. -/
def after (changes : Nat) (x : Numbers) : Numbers := { x with patch := x.patch + changes }

theorem before_after {changes : Nat} (h : 0 < changes) (x : Numbers) : x.Before (x.after changes) :=
  .inr ⟨rfl, .inr ⟨rfl, Nat.lt_add_of_pos_right h⟩⟩

theorem after_after (m n : Nat) (x : Numbers) : (x.after m).after n = x.after (m + n) := by
  simp only [after, Nat.add_assoc]

/-- No number is too long to be written. -/
def Short (x : Numbers) : Prop :=
  x.major < 10 ^ digitLimit ∧ x.minor < 10 ^ digitLimit ∧ x.patch < 10 ^ digitLimit

theorem text_eq (x : Numbers) : x.text = ".".intercalate [toString x.major, toString x.minor, toString x.patch] := by
  simp only [text, String.intercalate_cons_cons, String.intercalate_singleton, String.append_assoc]
  rfl

end Numbers

/-! ## Parts -/

/-- The part of a version at a position, the parts being what stands between the points. A part that is missing is
zero. -/
def part (version : String) (i : Nat) : List Char := (version.toList.splitOn '.').getD i ['0']

/-- The part is a number: decimal digits, and at least one. -/
def IsNumber (cs : List Char) : Prop := cs ≠ [] ∧ ∀ c ∈ cs, isDecimal c = true

instance (cs : List Char) : Decidable (IsNumber cs) :=
  decidable_of_iff (cs ≠ [] ∧ cs.all isDecimal = true) (and_congr_right fun _ => List.all_eq_true)

/-- The value of a part; one that is no number counts as zero. -/
def valueOf (cs : List Char) : Nat := if IsNumber cs then decimalOf cs else 0

/-- The numbers of a version. -/
def numbers (version : String) : Numbers :=
  ⟨valueOf (part version 0), valueOf (part version 1), valueOf (part version 2)⟩

/-- If the part consists of digits, these are decimal digits, and not too many. -/
def Readable (cs : List Char) : Prop :=
  (∀ c ∈ cs, isDigit c = true) → (∀ c ∈ cs, isDecimal c = true) ∧ cs.length ≤ digitLimit

/-- The parts of a version between its points, each as a text. -/
theorem splitParts_eq (before cs : List Char) :
    splitParts before cs = ((cs.splitOn '.').modifyHead (before.reverse ++ ·)).map String.ofList := by
  fun_induction splitParts before cs with
  | case1 before => simp
  | case2 before rest ih =>
    rw [ih, List.splitOn_cons_eq_if_modifyHead]
    cases rest.splitOn '.' <;> simp
  | case3 before c rest hc ih =>
    have hpoint : (c == '.') = false := by simpa using hc
    rw [ih, List.splitOn_cons_eq_if_modifyHead, hpoint]
    cases rest.splitOn '.' with
    | nil => rfl
    | cons p ps => simp

/-- The three parts that count. -/
theorem firstParts_eq (version : String) :
    (splitParts [] version.toList ++ ["0", "0", "0"]).take 3 =
      [String.ofList (part version 0), String.ofList (part version 1), String.ofList (part version 2)] := by
  have hsplit : splitParts [] version.toList = (version.toList.splitOn '.').map String.ofList := by
    rw [splitParts_eq]
    cases version.toList.splitOn '.' <;> simp
  have hne := List.splitOn_ne_nil '.' version.toList
  rw [hsplit]
  unfold part
  match version.toList.splitOn '.', hne with
  | [p], _ => rfl
  | [p, q], _ => rfl
  | p :: q :: r :: rest, _ => rfl

theorem partNumber_eq_ok (s : String) (n : Int) :
    partNumber s = .ok n ↔ n = valueOf s.toList ∧ Readable s.toList := by
  have hall : allDigits s = true ↔ s.toList ≠ [] ∧ ∀ c ∈ s.toList, isDigit c = true := by
    simp [allDigits]
  by_cases hdigits : s.toList ≠ [] ∧ ∀ c ∈ s.toList, isDigit c = true
  · rw [partNumber, if_pos (hall.mpr hdigits)]
    by_cases hdecimal : ∀ c ∈ s.toList, isDecimal c = true
    · have hvalue : valueOf s.toList = decimalOf s.toList := if_pos ⟨hdigits.1, hdecimal⟩
      have hread := readInt_of_isDecimal hdigits.1 hdecimal
      rw [String.ofList_toList] at hread
      rw [hread, hvalue]
      by_cases hlong : digitLimit < s.toList.length
      · have hunread : ¬ Readable s.toList := fun h => Nat.not_le_of_lt hlong (h hdigits.2).2
        simp [if_pos hlong, hunread]
      · have hreadable : Readable s.toList := fun _ => ⟨hdecimal, Nat.le_of_not_lt hlong⟩
        simp [if_neg hlong, hreadable, eq_comm]
    · have hunread : ¬ Readable s.toList := fun h => hdecimal (h hdigits.2).1
      obtain ⟨c, hc, hother⟩ : ∃ c ∈ s.toList, isDecimal c = false := by simpa using hdecimal
      have hread := readInt_of_not_isDecimal hdigits.2 hc hother
      rw [String.ofList_toList] at hread
      rw [hread]
      simp [hunread]
  · have hvalue : valueOf s.toList = 0 :=
      if_neg fun h => hdigits ⟨h.1, fun c hc => isDigit_of_isDecimal (h.2 c hc)⟩
    have hreadable : Readable s.toList := fun h => by
      have hnil : s.toList = [] := not_not.mp fun hne => hdigits ⟨hne, h⟩
      rw [hnil]
      exact ⟨List.forall_mem_nil _, Nat.zero_le _⟩
    rw [partNumber, if_neg (hall.not.mpr hdigits), hvalue]
    simp [hreadable, eq_comm]

theorem blames_partNumber (s : String) : Blames (fun f => f.family = .value) (partNumber s) := by
  unfold partNumber
  split
  · split <;> simp [Fault.family]
  · exact blames_ok

/-- A number is below the power of ten with as many zeros as the number has digits. -/
theorem decimalOf_lt (cs : List Char) : decimalOf cs < 10 ^ cs.length := by
  -- after a number that was read before, its successor counts as many times
  have hfrom : ∀ (cs : List Char) (n : Nat),
      cs.foldl (fun n c => 10 * n + (decimalValue? c).getD 0) n < (n + 1) * 10 ^ cs.length := by
    intro cs
    induction cs with
    | nil => simp
    | cons c cs ih =>
      intro n
      have hdigit : (decimalValue? c).getD 0 < 10 := by
        cases h : decimalValue? c with
        | none => decide
        | some d => exact decimalValue?_lt h
      calc (c :: cs).foldl (fun n c => 10 * n + (decimalValue? c).getD 0) n
          < (10 * n + (decimalValue? c).getD 0 + 1) * 10 ^ cs.length := ih _
        _ ≤ (10 * (n + 1)) * 10 ^ cs.length := Nat.mul_le_mul_right _ (by omega)
        _ = (n + 1) * 10 ^ (c :: cs).length := by
          rw [List.length_cons, Nat.pow_succ, Nat.mul_comm 10, Nat.mul_assoc, Nat.mul_comm 10]
  have hzero := hfrom cs 0
  rwa [Nat.zero_add, Nat.one_mul] at hzero

theorem Readable.valueOf_lt {cs : List Char} (h : Readable cs) : valueOf cs < 10 ^ digitLimit := by
  unfold valueOf
  split
  · next hnumber =>
    have hlength := (h fun c hc => isDigit_of_isDecimal (hnumber.2 c hc)).2
    exact Nat.lt_of_lt_of_le (decimalOf_lt cs) (Nat.pow_le_pow_right (by decide) hlength)
  · exact Nat.pow_pos (by decide)

/-! ## Numbers as they are written -/

theorem text_int_eq_ok (n : Int) (s : String) :
    (Value.int n).text = .ok s ↔ s = toString n ∧ n.natAbs < 10 ^ digitLimit := by
  have hcount : digitCount n.natAbs ≤ digitLimit ↔ n.natAbs < 10 ^ digitLimit := digitCount_le_iff (by decide)
  have hwritable : (Value.int n).isWritable = true ↔ digitCount n.natAbs ≤ digitLimit := decide_eq_true_iff
  rw [Value.text_eq_ok, hwritable, hcount, and_comm]
  rfl

theorem blames_text_int (n : Int) : Blames (fun f => f.family = .value) (Value.int n).text := by
  unfold Value.text Value.checkWritable
  split <;> simp [Fault.family, bind, Except.bind]

/-- The texts of numbers that are not too long to be written. -/
theorem numberTexts_eq_ok {x : Numbers} {texts : List String} :
    [(x.major : Int), x.minor, x.patch].mapM (fun n => (Value.int n).text) = .ok texts ↔
      texts = [toString x.major, toString x.minor, toString x.patch] ∧ x.Short := by
  have htexts (n : Nat) : toString (n : Int) = toString n := rfl
  rw [mapM_eq_ok_iff text_int_eq_ok]
  simp only [List.map_cons, List.map_nil, htexts, List.forall_mem_cons, Int.natAbs_natCast, Numbers.Short]
  simp

theorem splitOn_text (x : Numbers) : x.text.toList.splitOn '.' =
    [Nat.toDigits 10 x.major, Nat.toDigits 10 x.minor, Nat.toDigits 10 x.patch] := by
  have hpoint (n : Nat) : '.' ∉ Nat.toDigits 10 n := fun hmem => nomatch isDigit_of_mem_toDigits '.' hmem
  rw [x.text_eq, String.toList_intercalate]
  simp only [List.map_cons, List.map_nil, toString, Nat.toList_repr]
  exact List.splitOn_intercalate '.' (by simp [hpoint]) (by simp)

theorem isNumber_toDigits (n : Nat) : IsNumber (Nat.toDigits 10 n) := by
  refine ⟨Nat.toDigits_ne_nil, fun c hc => ?_⟩
  rw [isDecimal, decimalValue?_of_isDigit (isDigit_of_mem_toDigits c hc)]
  rfl

theorem valueOf_toDigits (n : Nat) : valueOf (Nat.toDigits 10 n) = n := by
  rw [valueOf, if_pos (isNumber_toDigits n), decimalOf_toDigits]

/-- The numbers of a version can be read off its text. -/
theorem numbers_text (x : Numbers) : numbers x.text = x := by
  simp only [numbers, part, splitOn_text, List.getD_cons_zero, List.getD_cons_succ, valueOf_toDigits]

/-- A number can be read again if it is not too long. -/
theorem readable_toDigits {n : Nat} (h : n < 10 ^ digitLimit) : Readable (Nat.toDigits 10 n) := fun _ =>
  ⟨(isNumber_toDigits n).2, (digitCount_le_iff (by decide)).mpr h⟩

/-! ## Raising a version -/

/-- The first three parts of a version can be read. -/
def Legible (version : String) : Prop := ∀ i < 3, Readable (part version i)

theorem legible_iff {version : String} :
    Legible version ↔ Readable (part version 0) ∧ Readable (part version 1) ∧ Readable (part version 2) := by
  constructor
  · exact fun h => ⟨h 0 (by decide), h 1 (by decide), h 2 (by decide)⟩
  · rintro ⟨h₀, h₁, h₂⟩ i hi
    match i, hi with
    | 0, _ => exact h₀
    | 1, _ => exact h₁
    | 2, _ => exact h₂

theorem partNumbers_eq_ok {version : String} {ns : List Int} :
    ((splitParts [] version.toList ++ ["0", "0", "0"]).take 3).mapM partNumber = .ok ns ↔
      ns = [((numbers version).major : Int), (numbers version).minor, (numbers version).patch] ∧ Legible version := by
  rw [firstParts_eq, mapM_eq_ok_iff partNumber_eq_ok, legible_iff]
  simp [numbers]

theorem Legible.short {version : String} (h : Legible version) : (numbers version).Short :=
  have ⟨h₀, h₁, h₂⟩ := legible_iff.mp h
  ⟨h₀.valueOf_lt, h₁.valueOf_lt, h₂.valueOf_lt⟩

/-- Numbers that are written can be read again. -/
theorem legible_text {x : Numbers} (h : x.Short) : Legible x.text := by
  rw [legible_iff]
  unfold part
  rw [splitOn_text]
  exact ⟨readable_toDigits h.1, readable_toDigits h.2.1, readable_toDigits h.2.2⟩

/-- A text that is no version at all is raised like the empty one. -/
theorem bump_str (version : String) : bump (.str version) = bumpPatch version := by
  have hself : (Value.str version).orElse "" = .str version := by
    by_cases h : version = "" <;> simp [Value.orElse, Value.truthy, Scalar.truthy, h]
  rw [bump, hself]

/-- A version is raised if its parts can be read and the last number can be written. -/
theorem bump_eq_ok {version raised : String} : bump (.str version) = .ok raised ↔
    Legible version ∧ ((numbers version).after 1).Short ∧ raised = ((numbers version).after 1).text := by
  have hwritten {texts : List String} := @numberTexts_eq_ok ((numbers version).after 1) texts
  rw [bump_str, bumpPatch, bind_eq_ok]
  simp only [partNumbers_eq_ok]
  constructor
  · rintro ⟨_, ⟨rfl, hlegible⟩, h⟩
    obtain ⟨texts, htexts, h⟩ := bind_eq_ok.mp h
    obtain ⟨rfl, hshort⟩ := hwritten.mp htexts
    exact ⟨hlegible, hshort, ((Numbers.text_eq _).trans (pure_eq_ok.mp h)).symm⟩
  · rintro ⟨hlegible, hshort, rfl⟩
    refine ⟨_, ⟨rfl, hlegible⟩, bind_eq_ok.mpr ⟨_, hwritten.mpr ⟨rfl, hshort⟩, ?_⟩⟩
    rw [Numbers.text_eq]
    rfl

theorem blames_bump (version : String) : Blames (fun f => f.family = .value) (bump (.str version)) := by
  rw [bump_str, bumpPatch]
  refine blames_bind.mpr ⟨blames_mapM fun s _ => blames_partNumber s, fun ns _ => ?_⟩
  split
  · exact blames_bind.mpr ⟨blames_mapM fun n _ => blames_text_int n, fun _ _ => blames_pure⟩
  · exact blames_pure

/-- A version after several changes of the rules. -/
def bumps (version : String) : Nat → Reading String
  | 0 => .ok version
  | changes + 1 => do bump (.str (← bumps version changes))

theorem bumps_eq_ok {version : String} : ∀ {changes : Nat} {raised : String},
    bumps version (changes + 1) = .ok raised ↔
      Legible version ∧ ((numbers version).after (changes + 1)).Short ∧
        raised = ((numbers version).after (changes + 1)).text
  | 0, raised => bump_eq_ok
  | changes + 1, raised => by
    have hshort (h : ((numbers version).after (changes + 1 + 1)).Short) : ((numbers version).after (changes + 1)).Short :=
      ⟨h.1, h.2.1, Nat.lt_of_succ_lt h.2.2⟩
    rw [bumps, bind_eq_ok]
    simp only [bumps_eq_ok, bump_eq_ok]
    constructor
    · rintro ⟨_, ⟨hlegible, -, rfl⟩, -, h, hraised⟩
      rw [numbers_text, Numbers.after_after] at h hraised
      exact ⟨hlegible, h, hraised⟩
    · rintro ⟨hlegible, h, rfl⟩
      refine ⟨_, ⟨hlegible, hshort h, rfl⟩, legible_text (hshort h), ?_⟩
      rw [numbers_text, Numbers.after_after]
      exact ⟨h, rfl⟩

theorem blames_bumps (version : String) : ∀ changes, Blames (fun f => f.family = .value) (bumps version changes)
  | 0 => blames_ok
  | changes + 1 => blames_bind.mpr ⟨blames_bumps version changes, fun raised _ => blames_bump raised⟩

/-- **Which versions can be raised.** A number of changes of the rules gives a version just when its first three parts,
where they consist of digits, are decimal numbers that are not too long, and the last number does not get too long.
What it gives are the numbers of the version with the last one raised by the number of changes, in plain decimal, from
which they can be read off again; they come after the numbers before. Anything else is refused as a wrong value. -/
theorem bumps_iff (version : String) (changes : Nat) :
    let raised := (numbers version).after (changes + 1)
    (∀ text, bumps version (changes + 1) = .ok text ↔
      ((∀ i < 3, Readable (part version i)) ∧ (numbers version).patch + (changes + 1) < 10 ^ digitLimit) ∧
        text = raised.text) ∧
    Blames (fun f => f.family = .value) (bumps version (changes + 1)) ∧
    numbers raised.text = raised ∧ (numbers version).Before raised := by
  intro raised
  refine ⟨fun text => bumps_eq_ok.trans ⟨?_, ?_⟩, blames_bumps version _, numbers_text raised,
    Numbers.before_after (Nat.succ_pos changes) _⟩
  · rintro ⟨hlegible, hshort, htext⟩
    exact ⟨⟨hlegible, hshort.2.2⟩, htext⟩
  · rintro ⟨⟨hlegible, hpatch⟩, htext⟩
    have hshort : (numbers version).Short := Legible.short hlegible
    exact ⟨hlegible, ⟨hshort.1, hshort.2.1, hpatch⟩, htext⟩

example : (bumps "2.٣" 4).toOption = some "2.3.4" := by decide +kernel

/-- A superscript looks like a number and is none, so that the version cannot be raised. -/
theorem superscript_not_raised :
    bump (.str "1.2.²") = .error (.notWhole "²") ∧ ((numbers "1.2.²").after 1).text = "1.2.1" :=
  ⟨rfl, by decide +kernel⟩

end SupplyGate.Version
