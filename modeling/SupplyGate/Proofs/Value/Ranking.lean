import Mathlib.Data.Char
import Mathlib.Data.List.Lex
import Mathlib.Algebra.Order.Ring.Rat
import Mathlib.Order.WithBot
import SupplyGate.Proofs.Value.Reading
import SupplyGate.Value.Arithmetic

/-!
# Ranking by a key

`sortDescending` puts records in the order of their keys, highest first. Keys are document values,
and the order of values is partial: two kinds have no order between them, and what is not a number
stands beside every number. What a sort promises beyond a permutation therefore depends on the keys
at hand, and `Ranked` says that they form an order with ties. Keys without parts do, as soon as they
can be sorted and none of them is `nan` (`ranked_of_sorted`).
-/

namespace SupplyGate

namespace Value

/-- A value is strictly below another one. -/
def Below (a b : Value) : Prop := less? a b = some true

instance (a b : Value) : Decidable (Below a b) := inferInstanceAs (Decidable (_ = _))

/-- Some values are in an order with ties. -/
structure Ranked (keys : List Value) : Prop where
  asymm : ∀ a ∈ keys, ∀ b ∈ keys, Below a b → ¬ Below b a
  notBelow_trans : ∀ a ∈ keys, ∀ b ∈ keys, ∀ c ∈ keys, ¬ Below a b → ¬ Below b c → ¬ Below a c

end Value

open Value

/-- The order with ties is transitive. -/
theorem Value.Ranked.below_trans {keys : List Value} (hr : Ranked keys) {a b c : Value} (ha : a ∈ keys) (hb : b ∈ keys)
    (hc : c ∈ keys) (hab : Below a b) (hbc : Below b c) : Below a c := by
  by_contra hac
  exact hr.notBelow_trans a ha c hc b hb hac (hr.asymm b hb c hc hbc) hab

theorem Value.Ranked.mono {keys keys' : List Value} (hr : Ranked keys) (h : ∀ a ∈ keys', a ∈ keys) : Ranked keys' where
  asymm a ha b hb := hr.asymm a (h a ha) b (h b hb)
  notBelow_trans a ha b hb c hc := hr.notBelow_trans a (h a ha) b (h b hb) c (h c hc)

theorem Value.less_eq_ok {a b : Value} {answer : Bool} : less a b = .ok answer ↔ less? a b = some answer := by
  unfold less ordered
  cases less? a b with
  | none => simp
  | some r => simp

theorem Value.less_ok_iff {a b : Value} {answer : Bool} (h : less a b = .ok answer) : answer = true ↔ Below a b := by
  rw [Below, less_eq_ok.mp h, Option.some.injEq]

/-! ## Runs and insertions -/

section Sorting

variable {α : Type} {key : α → Value}

/-- A run goes on with nothing, or with one record and from there. -/
theorem restOfRun_cons {down : Bool} {before a : α} {l run rest : List α}
    (h : restOfRun key down before (a :: l) = .ok (run, rest)) :
    (run = [] ∧ rest = a :: l) ∨ ∃ run', run = a :: run' ∧ restOfRun key down a l = .ok (run', rest) ∧
      (less? (key a) (key before)).isSome ∧ (down = true ↔ Below (key a) (key before)) := by
  rw [restOfRun] at h
  obtain ⟨answer, hanswer, h⟩ := Reading.bind_eq_ok.mp h
  split at h
  · cases h
    exact .inl ⟨rfl, rfl⟩
  · next hsame =>
    obtain ⟨⟨run', rest'⟩, hrest, h⟩ := Reading.bind_eq_ok.mp h
    cases h
    have hdown : answer = down := by simpa using hsame
    exact .inr ⟨run', rfl, hrest, by rw [less_eq_ok.mp hanswer]; rfl, by rw [← hdown, less_ok_iff hanswer]⟩

/-- A run and what follows it make up the list. -/
theorem restOfRun_append {down : Bool} : ∀ {l : List α} {before : α} {run rest : List α},
    restOfRun key down before l = .ok (run, rest) → l = run ++ rest
  | [], _, _, _, h => by
    cases h
    rfl
  | a :: l, before, run, rest, h => by
    rcases restOfRun_cons h with ⟨rfl, rfl⟩ | ⟨run', rfl, hrest, -⟩
    · rfl
    · rw [List.cons_append, ← restOfRun_append hrest]

/-- In a run of ranked records each one is below all before it, or none is. -/
theorem restOfRun_pairwise {down : Bool} : ∀ {l : List α} {before : α} {run rest : List α},
    Ranked ((before :: l).map key) → restOfRun key down before l = .ok (run, rest) →
      (before :: run).Pairwise fun a b => down = true ↔ Below (key b) (key a)
  | [], _, _, _, _, h => by
    cases h
    exact List.pairwise_singleton _ _
  | a :: l, before, run, rest, hr, h => by
    rcases restOfRun_cons h with ⟨rfl, -⟩ | ⟨run', rfl, hrest, -, hdown⟩
    · exact List.pairwise_singleton _ _
    have hpairs := restOfRun_pairwise (hr.mono fun v hv => List.mem_cons_of_mem _ hv) hrest
    refine List.pairwise_cons.mpr ⟨List.forall_mem_cons.mpr ⟨hdown, fun b hb => ?_⟩, hpairs⟩
    have hab := List.rel_of_pairwise_cons hpairs hb
    have hmem : b ∈ l := by
      rw [restOfRun_append hrest]
      exact List.mem_append_left _ hb
    have hkeys : key before ∈ (before :: a :: l).map key ∧ key a ∈ (before :: a :: l).map key ∧
        key b ∈ (before :: a :: l).map key := ⟨by simp, by simp, List.mem_map_of_mem (by simp [hmem])⟩
    obtain ⟨hbefore, ha, hb⟩ := hkeys
    cases down with
    | true => exact iff_of_true rfl (hr.below_trans hb ha hbefore (hab.mp rfl) (hdown.mp rfl))
    | false => exact iff_of_false nofun (hr.notBelow_trans _ hb _ ha _ hbefore (by simpa using hab) (by simpa using hdown))

/-- A list is nothing, or parted by a record in the middle. -/
theorem eq_nil_or_halved (l : List α) :
    l = [] ∨ ∃ lower middle upper, l = lower ++ middle :: upper ∧ lower.length = l.length / 2 := by
  rcases hdrop : l.drop (l.length / 2) with _ | ⟨middle, upper⟩
  · have hlength := congrArg List.length hdrop
    rw [List.length_drop, List.length_nil] at hlength
    exact .inl (List.length_eq_zero_iff.mp (by omega))
  · refine .inr ⟨l.take (l.length / 2), middle, upper, by rw [← hdrop, List.take_append_drop], ?_⟩
    rw [List.length_take]
    omega

theorem insertByHalves_nil (a : α) : insertByHalves key a [] = .ok [a] := by
  rw [insertByHalves]
  split
  · rfl
  · next h =>
    rw [List.drop_nil] at h
    cases h

theorem insertByHalves_halved {a middle : α} {lower upper : List α}
    (hl : lower.length = (lower ++ middle :: upper).length / 2) :
    insertByHalves key a (lower ++ middle :: upper) = (do
      if ← (key a).less (key middle) then return (← insertByHalves key a lower) ++ middle :: upper
      return lower ++ middle :: (← insertByHalves key a upper)) := by
  have hdrop : (lower ++ middle :: upper).drop ((lower ++ middle :: upper).length / 2) = middle :: upper := by
    rw [← hl, List.drop_left]
  rw [insertByHalves]
  split
  · next h =>
    rw [hdrop] at h
    cases h
  · next middle' upper' h =>
    rw [hdrop] at h
    cases h
    rw [← hl, List.take_left]

/-- A record is put in beside none, or in one of the halves that a middle record parts, the one that the order of the two
tells. -/
theorem insertByHalves_cases {a : α} {sorted m : List α} (h : insertByHalves key a sorted = .ok m) :
    (sorted = [] ∧ m = [a]) ∨ ∃ lower middle upper part, sorted = lower ++ middle :: upper ∧
      (less? (key a) (key middle)).isSome ∧
      ((Below (key a) (key middle) ∧ insertByHalves key a lower = .ok part ∧ m = part ++ middle :: upper) ∨
        ¬ Below (key a) (key middle) ∧ insertByHalves key a upper = .ok part ∧ m = lower ++ middle :: part) := by
  rcases eq_nil_or_halved sorted with rfl | ⟨lower, middle, upper, rfl, hl⟩
  · rw [insertByHalves_nil] at h
    cases h
    exact .inl ⟨rfl, rfl⟩
  · rw [insertByHalves_halved hl] at h
    obtain ⟨answer, hanswer, h⟩ := Reading.bind_eq_ok.mp h
    have hsome : (less? (key a) (key middle)).isSome := by rw [less_eq_ok.mp hanswer]; rfl
    refine .inr ⟨lower, middle, upper, ?_⟩
    split at h
    · next hbelow =>
      obtain ⟨part, hpart, h⟩ := Reading.bind_eq_ok.mp h
      cases h
      exact ⟨part, rfl, hsome, .inl ⟨(less_ok_iff hanswer).mp hbelow, hpart, rfl⟩⟩
    · next hbelow =>
      obtain ⟨part, hpart, h⟩ := Reading.bind_eq_ok.mp h
      cases h
      exact ⟨part, rfl, hsome, .inr ⟨mt (less_ok_iff hanswer).mpr hbelow, hpart, rfl⟩⟩

/-- A record is put in somewhere. -/
theorem insertByHalves_split {a : α} {sorted m : List α} (h : insertByHalves key a sorted = .ok m) :
    ∃ lower upper, sorted = lower ++ upper ∧ m = lower ++ a :: upper := by
  rcases insertByHalves_cases h with ⟨rfl, rfl⟩ | ⟨lower, middle, upper, part, rfl, -, ⟨-, hpart, rfl⟩ | ⟨-, hpart, rfl⟩⟩
  · exact ⟨[], [], rfl, rfl⟩
  · obtain ⟨l₁, l₂, rfl, rfl⟩ := insertByHalves_split hpart
    exact ⟨l₁, l₂ ++ middle :: upper, by simp, by simp⟩
  · obtain ⟨l₁, l₂, rfl, rfl⟩ := insertByHalves_split hpart
    exact ⟨lower ++ middle :: l₁, l₂, by simp, by simp⟩
termination_by sorted.length
decreasing_by
  all_goals
    rw [‹sorted = _›, List.length_append, List.length_cons]
    omega

/-- The records of a list ascend: none is below an earlier one. -/
def Ascends (key : α → Value) (l : List α) : Prop := l.Pairwise fun a b => ¬ Below (key b) (key a)

/-- Among ascending records that rank, a record is put in after those that it is not below. -/
theorem insertByHalves_placed {a : α} {sorted m : List α} (hr : Ranked ((a :: sorted).map key))
    (hs : Ascends key sorted) (h : insertByHalves key a sorted = .ok m) :
    ∃ lower upper, sorted = lower ++ upper ∧ m = lower ++ a :: upper ∧
      (∀ x ∈ lower, ¬ Below (key a) (key x)) ∧ ∀ x ∈ upper, Below (key a) (key x) := by
  have ha : key a ∈ (a :: sorted).map key := by simp
  have hkeys : ∀ x ∈ sorted, key x ∈ (a :: sorted).map key := fun x hx => List.mem_map_of_mem (List.mem_cons_of_mem a hx)
  rcases insertByHalves_cases h with
    ⟨rfl, rfl⟩ | ⟨lower, middle, upper, part, rfl, -, ⟨hbelow, hpart, rfl⟩ | ⟨hbelow, hpart, rfl⟩⟩
  · exact ⟨[], [], rfl, rfl, by simp, by simp⟩
  all_goals
    obtain ⟨hlower, hupper, hacross⟩ := List.pairwise_append.mp hs
    obtain ⟨hmiddle, hupper⟩ := List.pairwise_cons.mp hupper
  · obtain ⟨l₁, l₂, rfl, rfl, h₁, h₂⟩ := insertByHalves_placed (hr.mono (by simp; grind)) hlower hpart
    refine ⟨l₁, l₂ ++ middle :: upper, by simp, by simp, h₁, fun x hx => ?_⟩
    rcases List.mem_append.mp hx with hx | hx
    · exact h₂ x hx
    rcases List.mem_cons.mp hx with rfl | hx
    · exact hbelow
    · by_contra hax
      exact hr.notBelow_trans _ ha _ (hkeys x (by simp [hx])) _ (hkeys middle (by simp)) hax (hmiddle x hx) hbelow
  · obtain ⟨l₁, l₂, rfl, rfl, h₁, h₂⟩ := insertByHalves_placed (hr.mono (by simp; grind)) hupper hpart
    refine ⟨lower ++ middle :: l₁, l₂, by simp, by simp, fun x hx => ?_, h₂⟩
    rcases List.mem_append.mp hx with hx | hx
    · exact hr.notBelow_trans _ ha _ (hkeys middle (by simp)) _ (hkeys x (by simp [hx])) hbelow
        (hacross x hx middle (by simp))
    rcases List.mem_cons.mp hx with rfl | hx
    · exact hbelow
    · exact h₁ x hx
termination_by sorted.length
decreasing_by
  all_goals
    rw [‹sorted = _›, List.length_append, List.length_cons]
    omega

/-! ## What sorting gives -/

/-- What sorting promises of records that rank: they are the same ones, they ascend, and two that may stay as they are do,
ties among them. -/
structure InOrder (key : α → Value) (l m : List α) : Prop where
  perm : m.Perm l
  ascends : Ascends key m
  stable : ∀ a b, ¬ Below (key b) (key a) → [a, b].Sublist l → [a, b].Sublist m

theorem InOrder.of_ascends {l : List α} (h : Ascends key l) : InOrder key l l := ⟨.refl l, h, fun _ _ _ hs => hs⟩

/-- Records each of which is below all before it are put in order from the last to the first. -/
theorem InOrder.reverse_of_descends {l : List α} (hr : Ranked (l.map key))
    (h : l.Pairwise fun a b => Below (key b) (key a)) : InOrder key l l.reverse where
  perm := l.reverse_perm
  ascends := List.pairwise_reverse.mpr <| h.imp_of_mem fun ha hb hba =>
    hr.asymm _ (List.mem_map_of_mem hb) _ (List.mem_map_of_mem ha) hba
  stable a b hab hs := absurd (by simpa using h.sublist hs) hab

/-- The records of the first run come in order. -/
theorem firstRun_inOrder {l run rest : List α} (hr : Ranked (l.map key)) (h : firstRun key l = .ok (run, rest)) :
    ∃ first, l = first ++ rest ∧ InOrder key first run := by
  match l with
  | [] | [_] =>
    cases h
    exact ⟨_, rfl, .of_ascends (by simp [Ascends])⟩
  | a :: b :: l =>
    obtain ⟨down, hdown, h⟩ := Reading.bind_eq_ok.mp h
    obtain ⟨⟨run', rest'⟩, hrest, h⟩ := Reading.bind_eq_ok.mp h
    cases h
    have happend : l = run' ++ rest := restOfRun_append hrest
    have hpairs : (a :: b :: run').Pairwise fun x y => down = true ↔ Below (key y) (key x) := by
      refine restOfRun_pairwise hr (show restOfRun key down a (b :: l) = .ok (b :: run', rest) from ?_)
      rw [restOfRun, hdown]
      simp [hrest, bind, Except.bind, pure, Except.pure]
    refine ⟨a :: b :: run', by simp [happend], ?_⟩
    cases down with
    | true =>
      have hsub : ∀ v ∈ (a :: b :: run').map key, v ∈ (a :: b :: l).map key := by
        rw [happend]
        simp
        grind
      exact .reverse_of_descends (hr.mono hsub) (hpairs.imp fun h => h.mp rfl)
    | false => exact .of_ascends (hpairs.imp fun h hba => nomatch h.mpr hba)

/-- A record that is put into records in order comes in order, as one given after them. -/
theorem InOrder.insert {l m m' : List α} {a : α} (h : InOrder key l m) (hr : Ranked ((l ++ [a]).map key))
    (hm : insertByHalves key a m = .ok m') : InOrder key (l ++ [a]) m' := by
  have hmem : ∀ x, x ∈ m ↔ x ∈ l := fun x => h.perm.mem_iff
  have hkeys : Ranked ((a :: m).map key) := hr.mono (by simp [hmem]; grind)
  obtain ⟨lower, upper, rfl, rfl, hlower, hupper⟩ := insertByHalves_placed hkeys h.ascends hm
  refine ⟨?_, ?_, fun x y hxy hs => ?_⟩
  · exact List.perm_middle.trans ((h.perm.cons a).trans (List.perm_append_singleton a l).symm)
  · obtain ⟨hl, hu, hacross⟩ := List.pairwise_append.mp h.ascends
    refine List.pairwise_append.mpr ⟨hl, List.pairwise_cons.mpr ⟨fun y hy => ?_, hu⟩, fun x hx => ?_⟩
    · have hy' : key y ∈ (a :: (lower ++ upper)).map key := List.mem_map_of_mem (by simp [hy])
      exact hkeys.asymm _ (by simp) _ hy' (hupper y hy)
    · exact List.forall_mem_cons.mpr ⟨hlower x hx, hacross x hx⟩
  · -- Two records given before, or one of them and the last.
    rcases List.sublist_append_iff.mp hs with ⟨s₁, s₂, hs, hs₁, hs₂⟩
    rcases List.sublist_singleton.mp hs₂ with rfl | rfl
    · rw [List.append_nil] at hs
      exact (h.stable x y hxy (hs ▸ hs₁)).trans (List.append_sublist_append_left lower |>.mpr (List.sublist_cons_self a upper))
    · obtain ⟨rfl, rfl⟩ : s₁ = [x] ∧ y = a := by
        rw [show [x, y] = [x] ++ [y] from rfl] at hs
        simpa [eq_comm] using List.append_inj' hs rfl
      have hx : x ∈ lower := by
        rcases List.mem_append.mp ((hmem x).mpr (hs₁.subset List.mem_cons_self)) with hx | hx
        · exact hx
        · exact absurd (hupper x hx) hxy
      exact (List.singleton_sublist.mpr hx).append (List.singleton_sublist.mpr List.mem_cons_self)

/-- Records put in one after the other come in order. -/
theorem foldlM_insert_inOrder : ∀ {rest l m m' : List α}, Ranked ((l ++ rest).map key) → InOrder key l m →
    rest.foldlM (fun sorted a => insertByHalves key a sorted) m = .ok m' → InOrder key (l ++ rest) m'
  | [], l, m, m', _, h, hm => by
    cases hm
    rwa [List.append_nil]
  | a :: rest, l, m, m', hr, h, hm => by
    rw [List.foldlM_cons] at hm
    obtain ⟨m₁, hm₁, hm⟩ := Reading.bind_eq_ok.mp hm
    rw [List.append_cons] at hr ⊢
    have hprefix : Ranked ((l ++ [a]).map key) := hr.mono fun v hv => by
      rw [List.map_append]
      exact List.mem_append_left _ hv
    exact foldlM_insert_inOrder hr (h.insert hprefix hm₁) hm

theorem sortAscending_inOrder {l m : List α} (hr : Ranked (l.map key)) (h : sortAscending key l = .ok m) :
    InOrder key l m := by
  obtain ⟨⟨run, rest⟩, hrun, hrest⟩ := Reading.bind_eq_ok.mp h
  obtain ⟨first, rfl, hfirst⟩ := firstRun_inOrder hr hrun
  exact foldlM_insert_inOrder hr hfirst hrest

/-- What the first run and what follows it are made of. -/
theorem firstRun_perm {l run rest : List α} (h : firstRun key l = .ok (run, rest)) : (run ++ rest).Perm l := by
  match l with
  | [] | [_] =>
    cases h
    exact .of_eq (List.append_nil _)
  | a :: b :: l =>
    obtain ⟨down, -, h⟩ := Reading.bind_eq_ok.mp h
    obtain ⟨⟨run', rest'⟩, hrest, h⟩ := Reading.bind_eq_ok.mp h
    rw [restOfRun_append hrest]
    cases down with
    | true =>
      cases h
      exact (List.reverse_perm _).append_right rest
    | false =>
      cases h
      exact .refl _

theorem foldlM_insert_perm : ∀ {rest m m' : List α},
    rest.foldlM (fun sorted a => insertByHalves key a sorted) m = .ok m' → m'.Perm (m ++ rest)
  | [], m, m', h => by
    cases h
    rw [List.append_nil]
  | a :: rest, m, m', h => by
    rw [List.foldlM_cons] at h
    obtain ⟨m₁, hm₁, h⟩ := Reading.bind_eq_ok.mp h
    obtain ⟨lower, upper, rfl, rfl⟩ := insertByHalves_split hm₁
    refine (foldlM_insert_perm h).trans ?_
    rw [List.append_cons (lower ++ upper)]
    exact (List.perm_middle.trans (List.perm_append_singleton a _).symm).append_right rest

theorem sortAscending_perm {l m : List α} (h : sortAscending key l = .ok m) : m.Perm l := by
  obtain ⟨⟨run, rest⟩, hrun, hrest⟩ := Reading.bind_eq_ok.mp h
  exact (foldlM_insert_perm hrest).trans (firstRun_perm hrun)

variable {l m : List α}

theorem sortDescending_eq_ok : sortDescending key l = .ok m ↔ sortAscending key l.reverse = .ok m.reverse := by
  unfold sortDescending
  cases sortAscending key l.reverse with
  | error f => simp
  | ok r => simp [List.reverse_eq_iff]

theorem sortDescending_perm (h : sortDescending key l = .ok m) : m.Perm l :=
  (List.reverse_perm m).symm.trans ((sortAscending_perm (sortDescending_eq_ok.mp h)).trans (List.reverse_perm l))

theorem sortDescending_inOrder (hr : Ranked (l.map key)) (h : sortDescending key l = .ok m) :
    InOrder key l.reverse m.reverse :=
  sortAscending_inOrder (hr.mono (by simp)) (sortDescending_eq_ok.mp h)

/-- A sorted list descends: no record is below a later one. -/
theorem sortDescending_pairwise (hr : Ranked (l.map key)) (h : sortDescending key l = .ok m) :
    m.Pairwise fun a b => ¬ Below (key a) (key b) :=
  List.pairwise_reverse.mp (sortDescending_inOrder hr h).ascends

/-- Sorting keeps the order of two records that may stay as they are, ties among them. -/
theorem sortDescending_stable (hr : Ranked (l.map key)) (h : sortDescending key l = .ok m) {a b : α}
    (hab : ¬ Below (key a) (key b)) (hs : [a, b].Sublist l) : [a, b].Sublist m := by
  have hback := (sortDescending_inOrder hr h).stable b a hab (by simpa using List.reverse_sublist.mpr hs)
  simpa using List.reverse_sublist.mpr hback

theorem sortDescending_singleton (key : α → Value) (a : α) : sortDescending key [a] = .ok [a] := rfl

/-! ## Sorting changed records -/

section Changed

variable {f : α → α} (hf : ∀ a, key (f a) = key a)
include hf

theorem restOfRun_map (down : Bool) (before : α) (l : List α) :
    restOfRun key down (f before) (l.map f) =
      (restOfRun key down before l).map fun (run, rest) => (run.map f, rest.map f) := by
  induction l generalizing before with
  | nil => rfl
  | cons a l ih =>
    rw [List.map_cons, restOfRun, restOfRun, hf, hf, ih]
    cases (key a).less (key before) with
    | error e => rfl
    | ok answer =>
      simp only [bind, Except.bind]
      split
      · rfl
      · cases restOfRun key down a l <;> rfl

theorem firstRun_map (l : List α) :
    firstRun key (l.map f) = (firstRun key l).map fun (run, rest) => (run.map f, rest.map f) := by
  match l with
  | [] | [_] => rfl
  | a :: b :: l =>
    simp only [List.map_cons, firstRun, hf, restOfRun_map hf]
    cases (key b).less (key a) with
    | error e => rfl
    | ok down =>
      simp only [bind, Except.bind]
      cases restOfRun key down b l with
      | error e => rfl
      | ok r => cases down <;> simp [Except.map, pure, Except.pure]

theorem insertByHalves_map (a : α) (sorted : List α) :
    insertByHalves key (f a) (sorted.map f) = (insertByHalves key a sorted).map (List.map f) := by
  rcases eq_nil_or_halved sorted with rfl | ⟨lower, middle, upper, rfl, hl⟩
  · rw [List.map_nil, insertByHalves_nil, insertByHalves_nil]
    rfl
  have hl' : (lower.map f).length = (lower.map f ++ f middle :: upper.map f).length / 2 := by
    simpa using hl
  rw [List.map_append, List.map_cons, insertByHalves_halved hl, insertByHalves_halved hl', hf, hf,
    insertByHalves_map a lower, insertByHalves_map a upper]
  cases (key a).less (key middle) with
  | error e => rfl
  | ok answer =>
    cases answer with
    | true => cases insertByHalves key a lower <;> simp [bind, Except.bind, pure, Except.pure, Except.map]
    | false => cases insertByHalves key a upper <;> simp [bind, Except.bind, pure, Except.pure, Except.map]
termination_by sorted.length
decreasing_by
  all_goals
    rw [‹sorted = _›, List.length_append, List.length_cons]
    omega

theorem foldlM_insert_map (rest m : List α) :
    (rest.map f).foldlM (fun sorted a => insertByHalves key a sorted) (m.map f) =
      (rest.foldlM (fun sorted a => insertByHalves key a sorted) m).map (List.map f) := by
  induction rest generalizing m with
  | nil => rfl
  | cons a rest ih =>
    rw [List.map_cons, List.foldlM_cons, List.foldlM_cons, insertByHalves_map hf]
    cases insertByHalves key a m with
    | error e => rfl
    | ok m' => exact ih m'

/-- Records that are changed without their keys come in the same order. -/
theorem sortAscending_map (l : List α) : sortAscending key (l.map f) = (sortAscending key l).map (List.map f) := by
  unfold sortAscending
  rw [firstRun_map hf]
  cases firstRun key l with
  | error e => rfl
  | ok r => exact foldlM_insert_map hf r.2 r.1

theorem sortDescending_map (l : List α) : sortDescending key (l.map f) = (sortDescending key l).map (List.map f) := by
  unfold sortDescending
  rw [← List.map_reverse, sortAscending_map hf]
  cases sortAscending key l.reverse with
  | error e => rfl
  | ok m => exact congrArg Except.ok List.map_reverse.symm

end Changed

/-! ## Comparable keys -/

/-- Some values of which any two have an order between them. -/
def Comparable (keys : List Value) : Prop := ∀ a ∈ keys, ∀ b ∈ keys, (less? a b).isSome

theorem Value.exists_less {a b : Value} (h : (less? a b).isSome) : ∃ answer, less a b = .ok answer := by
  obtain ⟨answer, hanswer⟩ := Option.isSome_iff_exists.mp h
  exact ⟨answer, less_eq_ok.mpr hanswer⟩

theorem Comparable.mono {keys keys' : List Value} (hc : Comparable keys) (h : ∀ a ∈ keys', a ∈ keys) : Comparable keys' :=
  fun a ha b hb => hc a (h a ha) b (h b hb)

theorem restOfRun_ok (down : Bool) : ∀ {l : List α} {before : α}, Comparable ((before :: l).map key) →
    ∃ run rest, restOfRun key down before l = .ok (run, rest)
  | [], _, _ => ⟨[], [], rfl⟩
  | a :: l, before, hc => by
    obtain ⟨answer, hanswer⟩ := exists_less (hc (key a) (by simp) (key before) (by simp))
    have hafter : Comparable ((a :: l).map key) := hc.mono fun v hv => List.mem_cons_of_mem _ hv
    obtain ⟨run, rest, hrest⟩ := restOfRun_ok down hafter
    rw [restOfRun, hanswer]
    simp only [bind, Except.bind, hrest]
    split <;> exact ⟨_, _, rfl⟩

theorem insertByHalves_ok {a : α} {sorted : List α} (hc : Comparable ((a :: sorted).map key)) :
    ∃ m, insertByHalves key a sorted = .ok m := by
  rcases eq_nil_or_halved sorted with rfl | ⟨lower, middle, upper, rfl, hl⟩
  · exact ⟨_, insertByHalves_nil a⟩
  obtain ⟨answer, hanswer⟩ := exists_less (hc (key a) (by simp) (key middle) (by simp))
  have hlower : Comparable ((a :: lower).map key) := hc.mono (by simp; grind)
  have hupper : Comparable ((a :: upper).map key) := hc.mono (by simp; grind)
  obtain ⟨m₁, hm₁⟩ := insertByHalves_ok hlower
  obtain ⟨m₂, hm₂⟩ := insertByHalves_ok hupper
  rw [insertByHalves_halved hl, hanswer, hm₁, hm₂]
  cases answer <;> exact ⟨_, rfl⟩
termination_by sorted.length
decreasing_by
  all_goals
    rw [‹sorted = _›, List.length_append, List.length_cons]
    omega

theorem foldlM_insert_ok : ∀ {rest m : List α}, Comparable ((m ++ rest).map key) →
    ∃ m', rest.foldlM (fun sorted a => insertByHalves key a sorted) m = .ok m'
  | [], m, _ => ⟨m, rfl⟩
  | a :: rest, m, hc => by
    have hinto : Comparable ((a :: m).map key) := hc.mono (by simp; grind)
    obtain ⟨m₁, hm₁⟩ := insertByHalves_ok hinto
    obtain ⟨lower, upper, rfl, rfl⟩ := insertByHalves_split hm₁
    have hrest : Comparable (((lower ++ a :: upper) ++ rest).map key) := hc.mono (by simp; grind)
    obtain ⟨m', hm'⟩ := foldlM_insert_ok hrest
    exact ⟨m', by rw [List.foldlM_cons, hm₁]; exact hm'⟩

theorem firstRun_ok {l : List α} (hc : Comparable (l.map key)) : ∃ run rest, firstRun key l = .ok (run, rest) := by
  match l with
  | [] | [_] => exact ⟨_, _, rfl⟩
  | a :: b :: l =>
    obtain ⟨down, hdown⟩ := exists_less (hc (key b) (by simp) (key a) (by simp))
    have hafter : Comparable ((b :: l).map key) := hc.mono fun v hv => List.mem_cons_of_mem _ hv
    obtain ⟨run, rest, hrest⟩ := restOfRun_ok down hafter
    refine ⟨if down then (a :: b :: run).reverse else a :: b :: run, rest, ?_⟩
    rw [firstRun, hdown]
    simp [hrest, bind, Except.bind, pure, Except.pure]

/-- Records with comparable keys can be sorted. -/
theorem sortDescending_ok (hc : Comparable (l.map key)) : ∃ m, sortDescending key l = .ok m := by
  have hreversed : Comparable (l.reverse.map key) := hc.mono (by simp)
  obtain ⟨run, rest, hrun⟩ := firstRun_ok hreversed
  have hmem : ∀ a, a ∈ run ++ rest ↔ a ∈ l := fun a => by rw [(firstRun_perm hrun).mem_iff, List.mem_reverse]
  have hparts : Comparable ((run ++ rest).map key) := hc.mono fun v hv => by
    obtain ⟨a, ha, rfl⟩ := List.mem_map.mp hv
    exact List.mem_map_of_mem ((hmem a).mp ha)
  obtain ⟨m, hm⟩ := foldlM_insert_ok hparts
  refine ⟨m.reverse, sortDescending_eq_ok.mpr ?_⟩
  rw [sortAscending, hrun, List.reverse_reverse]
  exact hm

end Sorting

/-! ## Keys that rank -/

/-- Values are ranked where their order is that of some linear order. -/
theorem Value.Ranked.of_lt {L : Type} [LinearOrder L] {keys : List Value} (f : Value → L)
    (hf : ∀ a ∈ keys, ∀ b ∈ keys, Below a b ↔ f a < f b) : Ranked keys where
  asymm a ha b hb hab := by
    rw [hf a ha b hb] at hab
    rw [hf b hb a ha]
    exact lt_asymm hab
  notBelow_trans a ha b hb c hc hab hbc := by
    rw [hf a ha b hb, not_lt] at hab
    rw [hf b hb c hc, not_lt] at hbc
    rw [hf a ha c hc, not_lt]
    exact hbc.trans hab

/-- Where a number stands on the line of numbers between two infinities. -/
def Number.Extended.height : Number.Extended → WithBot (WithTop Rat)
  | .nan | .infinite true => ⊥
  | .infinite false => ((⊤ : WithTop Rat) : WithBot (WithTop Rat))
  | .finite q => ((q : WithTop Rat) : WithBot (WithTop Rat))

theorem Number.Extended.less_iff_height :
    ∀ {x y : Number.Extended}, x ≠ .nan → y ≠ .nan → (x.less y = true ↔ x.height < y.height)
  | .finite p, .finite q, _, _ => by simp [less, height, WithBot.coe_lt_coe, WithTop.coe_lt_coe]
  | .finite p, .infinite false, _, _ => by
    have h : ((p : WithTop Rat) : WithBot (WithTop Rat)) < ((⊤ : WithTop Rat) : WithBot (WithTop Rat)) :=
      WithBot.coe_lt_coe.mpr (WithTop.coe_lt_top p)
    simp [less, height] at h ⊢
    exact h
  | .finite p, .infinite true, _, _ => by simp [less, height]
  | .infinite false, .finite q, _, _ => by simp [less, height]
  | .infinite true, .finite q, _, _ => by simp [less, height, WithBot.bot_lt_coe]
  | .infinite a, .infinite b, _, _ => by cases a <;> cases b <;> simp [less, height]
  | .nan, _, hx, _ => absurd rfl hx
  | .finite _, .nan, _, hy => absurd rfl hy
  | .infinite _, .nan, _, hy => absurd rfl hy

theorem Value.lessChars_iff_lt : ∀ {cs ds : List Char}, lessChars cs ds = true ↔ cs < ds
  | [], [] => by simp [lessChars]
  | _ :: _, [] => by simp [lessChars]
  | [], _ :: _ => by simp [lessChars]
  | c :: cs, d :: ds => by simp [lessChars, List.cons_lt_cons_iff, lessChars_iff_lt]

/-- The kinds of scalars within which there is an order. -/
inductive RankKind where
  | number
  | text
  | time (fixed : Bool)
  | day
  | none

/-- The kind within which a scalar is compared. -/
def Scalar.rankKind : Scalar → RankKind
  | .null => .none
  | .bool _ | .int _ | .float _ => .number
  | .str _ => .text
  | .time t => .time t.offset.isSome
  | .date _ => .day

/-- A key that sorting ranks: a value without parts, and not `nan`. -/
def Value.IsRankable : Value → Prop
  | .scalar s => s.key ≠ .number .nan
  | _ => False

/-- Where a moment or a day stands in time. -/
def Value.place : Value → Int
  | .time t => t.instant
  | .date d => d.ordinal
  | _ => 0

/-- Within a kind, the order of rankable scalars is that of a linear order. -/
theorem ranked_of_kind {keys : List Value} (k : RankKind)
    (h : ∀ v ∈ keys, ∃ s : Scalar, v = .scalar s ∧ s.key ≠ .number .nan ∧ s.rankKind = k) :
    Ranked keys := by
  cases k with
  | number =>
    refine .of_lt (fun v => (v.number?.getD .nan).height) fun a ha b hb => ?_
    obtain ⟨s, rfl, hs, hsk⟩ := h a ha
    obtain ⟨t, rfl, ht, htk⟩ := h b hb
    cases s <;> cases t <;> simp [Scalar.rankKind] at hsk htk <;>
      simp [Below, less?, number?, Scalar.key] at hs ht ⊢ <;>
      exact Number.Extended.less_iff_height (by simpa using hs) (by simpa using ht)
  | text =>
    refine .of_lt (fun v => v.rendered.toList) fun a ha b hb => ?_
    obtain ⟨s, rfl, -, hsk⟩ := h a ha
    obtain ⟨t, rfl, -, htk⟩ := h b hb
    cases s <;> cases t <;> simp [Scalar.rankKind] at hsk htk
    simp [Below, less?, lessChars_iff_lt, rendered]
  | time fixed =>
    refine .of_lt Value.place fun a ha b hb => ?_
    obtain ⟨s, rfl, -, hsk⟩ := h a ha
    obtain ⟨t, rfl, -, htk⟩ := h b hb
    cases s <;> cases t <;> simp [Scalar.rankKind] at hsk htk
    simp [Below, less?, hsk, htk, Timestamp.isAfter, place]
  | day =>
    refine .of_lt Value.place fun a ha b hb => ?_
    obtain ⟨s, rfl, -, hsk⟩ := h a ha
    obtain ⟨t, rfl, -, htk⟩ := h b hb
    cases s <;> cases t <;> simp [Scalar.rankKind] at hsk htk
    simp [Below, less?, place]
  | none =>
    refine .of_lt (fun _ => (0 : Nat)) fun a ha b hb => ?_
    obtain ⟨s, rfl, -, hsk⟩ := h a ha
    obtain ⟨t, rfl, -, htk⟩ := h b hb
    cases s <;> cases t <;> simp [Scalar.rankKind] at hsk htk
    simp [Below, less?, number?]

theorem rankKind_of_less? {s t : Scalar} (h : (less? (.scalar s) (.scalar t)).isSome) :
    s.rankKind = t.rankKind := by
  cases s <;> cases t <;> simp_all [less?, number?, Scalar.rankKind]

/-- The kind within which a value is compared. -/
def Value.rankKind : Value → RankKind
  | .scalar s => s.rankKind
  | _ => .none

section Kinds

variable {α : Type} {key : α → Value}

theorem restOfRun_kind {down : Bool} : ∀ {l : List α} {before : α} {run rest : List α},
    (∀ a ∈ before :: l, ∃ s : Scalar, key a = .scalar s) → restOfRun key down before l = .ok (run, rest) →
      ∀ a ∈ run, (key a).rankKind = (key before).rankKind
  | [], _, _, _, _, h => by
    cases h
    simp
  | a :: l, before, run, rest, hs, h => by
    rcases restOfRun_cons h with ⟨rfl, -⟩ | ⟨run', rfl, hrest, hless, -⟩
    · simp
    obtain ⟨s, hs₀⟩ := hs before (by simp)
    obtain ⟨t, ht⟩ := hs a (by simp)
    have ha : (key a).rankKind = (key before).rankKind := by
      rw [hs₀, ht] at hless ⊢
      exact rankKind_of_less? hless
    refine List.forall_mem_cons.mpr ⟨ha, fun b hb => ?_⟩
    rw [restOfRun_kind (fun b hb => hs b (List.mem_cons_of_mem _ hb)) hrest b hb, ha]

/-- A record that can be put in among records of one kind is of that kind too. -/
theorem insertByHalves_kind {a : α} {sorted m : List α} {k : RankKind} (hne : sorted ≠ [])
    (hsorted : ∀ x ∈ sorted, ∃ s : Scalar, key x = .scalar s ∧ s.rankKind = k) {s : Scalar} (ha : key a = .scalar s)
    (h : insertByHalves key a sorted = .ok m) : s.rankKind = k := by
  rcases insertByHalves_cases h with ⟨rfl, -⟩ | ⟨lower, middle, upper, part, rfl, hless, -⟩
  · exact absurd rfl hne
  · obtain ⟨t, ht, hk⟩ := hsorted middle (by simp)
    rw [ha, ht] at hless
    rw [rankKind_of_less? hless, hk]

theorem foldlM_insert_kind {k : RankKind} : ∀ {rest m m' : List α}, m ≠ [] →
    (∀ a ∈ m, ∃ s : Scalar, key a = .scalar s ∧ s.rankKind = k) → (∀ a ∈ rest, ∃ s : Scalar, key a = .scalar s) →
    rest.foldlM (fun sorted a => insertByHalves key a sorted) m = .ok m' →
      ∀ a ∈ rest, ∃ s : Scalar, key a = .scalar s ∧ s.rankKind = k
  | [], _, _, _, _, _, _ => by simp
  | a :: rest, m, m', hne, hm, hs, h => by
    rw [List.foldlM_cons] at h
    obtain ⟨m₁, hm₁, h⟩ := Reading.bind_eq_ok.mp h
    obtain ⟨s, hsa⟩ := hs a List.mem_cons_self
    have ha : ∃ s : Scalar, key a = .scalar s ∧ s.rankKind = k := ⟨s, hsa, insertByHalves_kind hne hm hsa hm₁⟩
    obtain ⟨lower, upper, rfl, rfl⟩ := insertByHalves_split hm₁
    refine List.forall_mem_cons.mpr ⟨ha, foldlM_insert_kind (by simp) (fun x hx => ?_)
      (fun x hx => hs x (List.mem_cons_of_mem a hx)) h⟩
    rcases List.mem_append.mp hx with hx | hx
    · exact hm x (List.mem_append_left _ hx)
    rcases List.mem_cons.mp hx with rfl | hx
    · exact ha
    · exact hm x (List.mem_append_right _ hx)

theorem firstRun_kind {l run rest : List α} (hs : ∀ a ∈ l, ∃ s : Scalar, key a = .scalar s)
    (h : firstRun key l = .ok (run, rest)) :
    (l ≠ [] → run ≠ []) ∧ ∃ k, ∀ a ∈ run, ∃ s : Scalar, key a = .scalar s ∧ s.rankKind = k := by
  match l with
  | [] =>
    cases h
    exact ⟨fun h => h, .none, by simp⟩
  | [a] =>
    cases h
    obtain ⟨s, hs⟩ := hs a List.mem_cons_self
    exact ⟨by simp, s.rankKind, by simp [hs]⟩
  | a :: b :: l =>
    obtain ⟨down, hdown, h⟩ := Reading.bind_eq_ok.mp h
    obtain ⟨⟨run', rest'⟩, hrest, h⟩ := Reading.bind_eq_ok.mp h
    obtain ⟨s, hsa⟩ := hs a (by simp)
    obtain ⟨t, htb⟩ := hs b (by simp)
    have hless : (less? (key b) (key a)).isSome := by rw [less_eq_ok.mp hdown]; rfl
    have hkind : t.rankKind = s.rankKind := by
      rw [hsa, htb] at hless
      exact rankKind_of_less? hless
    have hrun : ∀ x ∈ a :: b :: run', ∃ u : Scalar, key x = .scalar u ∧ u.rankKind = s.rankKind := by
      refine List.forall_mem_cons.mpr ⟨⟨s, hsa, rfl⟩, List.forall_mem_cons.mpr ⟨⟨t, htb, hkind⟩, fun x hx => ?_⟩⟩
      obtain ⟨u, hu⟩ := hs x (by rw [restOfRun_append hrest]; simp [hx])
      have hx := restOfRun_kind (fun y hy => hs y (List.mem_cons_of_mem a hy)) hrest x hx
      rw [hu, htb] at hx
      exact ⟨u, hu, hx.trans hkind⟩
    cases down with
    | true =>
      cases h
      exact ⟨by simp, s.rankKind, fun x hx => hrun x (List.mem_reverse.mp hx)⟩
    | false =>
      cases h
      exact ⟨by simp, s.rankKind, hrun⟩

/-- **Rankable keys rank.** Keys that can be sorted are ranked if they have no parts and none of them
is `nan`. -/
theorem ranked_of_ascending {l m : List α} (h : sortAscending key l = .ok m) (hk : ∀ a ∈ l, (key a).IsRankable) :
    Ranked (l.map key) := by
  have hs : ∀ a ∈ l, ∃ s : Scalar, key a = .scalar s ∧ s.key ≠ .number .nan := fun a ha =>
    match key a, hk a ha with
    | .scalar s, hn => ⟨s, rfl, hn⟩
  obtain ⟨⟨run, rest⟩, hrun, hrest⟩ := Reading.bind_eq_ok.mp h
  have hmem : ∀ a, a ∈ l ↔ a ∈ run ∨ a ∈ rest := fun a => by rw [← (firstRun_perm hrun).mem_iff, List.mem_append]
  obtain ⟨hne, k, hrunKind⟩ := firstRun_kind (fun a ha => (hs a ha).imp fun _ h => h.1) hrun
  have hkind : ∀ a ∈ l, ∃ s : Scalar, key a = .scalar s ∧ s.rankKind = k := by
    intro a ha
    rcases (hmem a).mp ha with ha' | ha'
    · exact hrunKind a ha'
    · exact foldlM_insert_kind (hne (List.ne_nil_of_mem ha)) hrunKind
        (fun x hx => (hs x ((hmem x).mpr (.inr hx))).imp fun _ h => h.1) hrest a ha'
  refine ranked_of_kind k fun v hv => ?_
  obtain ⟨a, ha, rfl⟩ := List.mem_map.mp hv
  obtain ⟨s, hsa, hsn⟩ := hs a ha
  obtain ⟨t, ht, htk⟩ := hkind a ha
  rw [hsa] at ht ⊢
  cases ht
  exact ⟨s, rfl, hsn, htk⟩

theorem ranked_of_sorted {l m : List α} (h : sortDescending key l = .ok m) (hk : ∀ a ∈ l, (key a).IsRankable) :
    Ranked (l.map key) :=
  (ranked_of_ascending (sortDescending_eq_ok.mp h) fun a ha => hk a (List.mem_reverse.mp ha)).mono (by simp)

end Kinds

end SupplyGate
