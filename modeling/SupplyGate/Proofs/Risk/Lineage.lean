import Mathlib.Data.List.Nodup
import Mathlib.Logic.Relation
import SupplyGate.Proofs.Store.Memory

/-!
# Lineages of assessments

A lineage lists assessments by name, in the order in which they came in, each with the one that it supersedes,
if any. It grows at its end. Of the assessments that supersede one, the latest is the one that it is linked to;
following these links from anywhere leads to exactly one assessment that none supersedes (`Grown.exists_end`,
`end_unique`). Where no assessment is superseded twice (`Unforked`), the links are the lineage itself.
-/

namespace SupplyGate

open Relation (ReflTransGen)

/-- Names in the order in which they came in, each with the one that it supersedes, if any. -/
abbrev Lineage := List (String × Option String)

namespace Lineage

variable {l : Lineage} {x y z : String} {previous : Option String}

/-- The names of a lineage. -/
def names (l : Lineage) : List String := l.map (·.1)

/-- The names that supersede a name. -/
def successors (l : Lineage) (x : String) : List String := (l.filter (·.2 = some x)).map (·.1)

/-- The name that superseded a name last. -/
def latest (l : Lineage) (x : String) : Option String := (l.successors x).getLast?

/-- A lineage grows by a new name, which supersedes one that is there, or none. -/
inductive Grown : Lineage → Prop
  | empty : Grown []
  | add {l : Lineage} {x : String} {previous : Option String} (grown : Grown l) (new : x ∉ l.names)
    (known : ∀ p, previous = some p → p ∈ l.names) : Grown (l ++ [(x, previous)])

/-- No name is superseded twice. -/
def Unforked (l : Lineage) : Prop := ∀ x, (l.successors x).length ≤ 1

/-! ## Names and successors -/

theorem names_append (l : Lineage) (x : String) (previous : Option String) :
    names (l ++ [(x, previous)]) = l.names ++ [x] := by
  simp [names]

theorem successors_append (l : Lineage) (x y : String) (previous : Option String) :
    successors (l ++ [(x, previous)]) y = l.successors y ++ if previous = some y then [x] else [] := by
  unfold successors
  rw [List.filter_append, List.map_append]
  by_cases hp : previous = some y
  · simp [hp]
  · simp [hp]

theorem latest_append (l : Lineage) (x y : String) (previous : Option String) :
    latest (l ++ [(x, previous)]) y = if previous = some y then some x else l.latest y := by
  unfold latest
  rw [successors_append]
  by_cases hp : previous = some y
  · simp [hp]
  · simp [hp]

theorem mem_successors : y ∈ l.successors x ↔ (y, some x) ∈ l := by
  simp [successors]

theorem mem_of_latest (h : l.latest x = some y) : (y, some x) ∈ l :=
  mem_successors.mp (List.mem_of_getLast? h)

theorem mem_names (h : (x, previous) ∈ l) : x ∈ l.names := List.mem_map_of_mem h

theorem latest_mem_names (h : l.latest x = some y) : y ∈ l.names := mem_names (mem_of_latest h)

namespace Grown

theorem nodup (h : Grown l) : l.names.Nodup := by
  induction h with
  | empty => exact .nil
  | add _ new _ ih =>
    rw [names_append]
    exact List.nodup_append.mpr ⟨ih, List.nodup_singleton _, fun a ha b hb hab =>
      new (List.mem_singleton.mp hb ▸ hab ▸ ha)⟩

theorem known_of_mem (h : Grown l) : ∀ {x p}, (x, some p) ∈ l → p ∈ l.names := by
  induction h with
  | empty => exact fun hmem => nomatch hmem
  | add _ _ known ih =>
    intro x p hmem
    rw [names_append]
    refine List.mem_append_left _ ?_
    rcases List.mem_append.mp hmem with hmem | hmem
    · exact ih hmem
    · obtain ⟨rfl, hp⟩ := Prod.mk.inj (List.mem_singleton.mp hmem)
      exact known p hp.symm

/-- What is not there is not superseded. -/
theorem successors_of_new (h : Grown l) (hx : x ∉ l.names) : l.successors x = [] := by
  rw [List.eq_nil_iff_forall_not_mem]
  exact fun y hy => hx (h.known_of_mem (mem_successors.mp hy))

theorem latest_of_new (h : Grown l) (hx : x ∉ l.names) : l.latest x = none := by
  rw [latest, h.successors_of_new hx]
  rfl

/-- A name supersedes one other at most. -/
theorem previous_unique (h : Grown l) {p q : Option String} (hp : (x, p) ∈ l) (hq : (x, q) ∈ l) : p = q := by
  have hentry : (x, p) = (x, q) := List.inj_on_of_nodup_map h.nodup hp hq rfl
  exact (Prod.mk.inj hentry).2

/-! ## Chains -/

/-- From every name the links lead to one that is not superseded. -/
theorem exists_end (h : Grown l) : ∀ {x}, x ∈ l.names →
    ∃ e, l.latest e = none ∧ ReflTransGen (fun y z => l.latest y = some z) x e := by
  induction h with
  | empty => exact fun hx => nomatch hx
  | @add l new previous grown hnew known ih =>
    have hend : latest (l ++ [(new, previous)]) new = none := by
      rw [latest_append, if_neg fun hp => hnew (known new hp)]
      exact grown.latest_of_new hnew
    intro x hx
    rw [names_append, List.mem_append, List.mem_singleton] at hx
    rcases hx with hx | rfl
    · obtain ⟨e, he, hpath⟩ := ih hx
      clear hx
      -- along the path as it was: it goes on to the new name from the one that this supersedes
      induction hpath using ReflTransGen.head_induction_on with
      | refl =>
        by_cases hp : previous = some e
        · refine ⟨new, hend, .single ?_⟩
          rw [latest_append, if_pos hp]
        · refine ⟨e, ?_, .refl⟩
          rw [latest_append, if_neg hp]
          exact he
      | @head x y hxy _ ihpath =>
        by_cases hp : previous = some x
        · refine ⟨new, hend, .single ?_⟩
          rw [latest_append, if_pos hp]
        · obtain ⟨e', he', hpath'⟩ := ihpath
          refine ⟨e', he', .head ?_ hpath'⟩
          rw [latest_append, if_neg hp]
          exact hxy
    · exact ⟨x, hend, .refl⟩

end Grown

/-! ## Forks -/

theorem unforked_append_none (l : Lineage) (x : String) : Unforked (l ++ [(x, none)]) ↔ l.Unforked := by
  refine forall_congr' fun y => ?_
  rw [successors_append, if_neg (by simp), List.append_nil]

/-- A lineage stays unforked as long as what is superseded was not superseded before. -/
theorem unforked_append_some (l : Lineage) (x p : String) :
    Unforked (l ++ [(x, some p)]) ↔ l.Unforked ∧ l.latest p = none := by
  have hlatest : l.latest p = none ↔ (l.successors p).length = 0 := by
    rw [latest, List.getLast?_eq_none_iff, List.length_eq_zero_iff]
  constructor
  · intro h
    refine ⟨fun y => ?_, hlatest.mpr ?_⟩
    · have hy := h y
      rw [successors_append, List.length_append] at hy
      omega
    · have hp := h p
      rw [successors_append, if_pos rfl, List.length_append, List.length_singleton] at hp
      omega
  · rintro ⟨h, hp⟩ y
    rw [successors_append, List.length_append]
    by_cases hy : p = y
    · subst hy
      rw [if_pos rfl, hlatest.mp hp]
      exact Nat.le_refl 1
    · rw [if_neg fun he => hy (Option.some.inj he), List.length_nil]
      exact h y

/-- In an unforked lineage the links are the lineage. -/
theorem Unforked.latest_iff (h : l.Unforked) : l.latest x = some y ↔ (y, some x) ∈ l := by
  refine ⟨mem_of_latest, fun hy => ?_⟩
  have hmem := mem_successors.mpr hy
  match hs : l.successors x, h x with
  | [], _ =>
    rw [hs] at hmem
    cases hmem
  | [z], _ =>
    rw [hs, List.mem_singleton] at hmem
    rw [latest, hs, hmem]
    rfl
  | _ :: _ :: _, hle => simp at hle

/-- A lineage is unforked if no two names supersede the same. -/
theorem Grown.unforked_iff (h : Grown l) :
    l.Unforked ↔ ∀ p x y, (x, some p) ∈ l → (y, some p) ∈ l → x = y := by
  constructor
  · intro hl p x y hx hy
    have hlx := hl.latest_iff.mpr hx
    rw [hl.latest_iff.mpr hy] at hlx
    exact (Option.some.inj hlx).symm
  · intro hone p
    have hnodup : (l.successors p).Nodup := h.nodup.sublist (List.filter_sublist.map _)
    match hs : l.successors p, hnodup with
    | [], _ => simp
    | [x], _ => simp
    | x :: y :: rest, hnodup =>
      have hx : x ∈ l.successors p := by simp [hs]
      have hy : y ∈ l.successors p := by simp [hs]
      have hxy := hone p x y (mem_successors.mp hx) (mem_successors.mp hy)
      simp [hxy] at hnodup

end Lineage

/-- Where each step is the only one, all ends that are reached from a place are one. -/
theorem end_unique {α : Type} {r : α → α → Prop} (hr : Relator.RightUnique r) {a b c : α} (hb : ReflTransGen r a b)
    (hc : ReflTransGen r a c) (hbend : ∀ x, ¬ r b x) (hcend : ∀ x, ¬ r c x) : b = c := by
  rcases ReflTransGen.total_of_right_unique hr hb hc with h | h
  · rcases h.cases_head with rfl | ⟨x, hx, -⟩
    · rfl
    · exact absurd hx (hbend x)
  · rcases h.cases_head with rfl | ⟨x, hx, -⟩
    · rfl
    · exact absurd hx (hcend x)

end SupplyGate
