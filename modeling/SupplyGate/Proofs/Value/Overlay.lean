import Mathlib.Data.List.Pairwise
import SupplyGate.Proofs.Value.Reading

/-!
# Maps put over maps

A map that was put over a base keeps the keys of the base in front, and no key comes twice (`Covers`). Put over
the base once more, it is as it was (`Covers.overlay_eq`).
-/

namespace SupplyGate.Value

variable {base entries : List (Scalar × Value)} {key : Scalar} {v : Value}

/-- No key of a map is the same as one after it. -/
def Apart (entries : List (Scalar × Value)) : Prop := entries.Pairwise fun e e' => e.1.same e'.1 = false

/-- The map has the keys of a base first, and no key of its own twice. -/
structure Covers (base entries : List (Scalar × Value)) : Prop where
  keys : base.map (·.1) <+: entries.map (·.1)
  apart : Apart entries

theorem apart_iff_keys {entries' : List (Scalar × Value)} (h : entries'.map (·.1) = entries.map (·.1)) :
    Apart entries' ↔ Apart entries := by
  have hkeys : ∀ es : List (Scalar × Value), Apart es ↔ (es.map (·.1)).Pairwise fun k k' => k.same k' = false := by
    intro es
    rw [List.pairwise_map]
    rfl
  rw [hkeys, hkeys, h]

/-- The keys of entries that go together are apart from each other. -/
theorem Apart.new {front back : List (Scalar × Value)} (h : Apart (front ++ (key, v) :: back)) :
    ∀ e ∈ front, e.1.same key = false :=
  fun e he => (List.pairwise_append.mp h).2.2 e he (key, v) List.mem_cons_self

/-! ## Insertion -/

theorem insert_append {front : List (Scalar × Value)} (h : ∀ e ∈ front, e.1.same key = false) :
    insert key v (front ++ entries) = front ++ insert key v entries := by
  induction front with
  | nil => rfl
  | cons e front ih =>
    have he := h e List.mem_cons_self
    rw [List.cons_append, insert, if_neg (by simp [he]), ih fun e' he' => h e' (List.mem_cons_of_mem _ he')]
    rfl

theorem insert_of_new (h : ∀ e ∈ entries, e.1.same key = false) : insert key v entries = entries ++ [(key, v)] := by
  calc insert key v entries = insert key v (entries ++ []) := by rw [List.append_nil]
    _ = entries ++ [(key, v)] := insert_append h

/-- An insertion changes no keys, or adds one that is new. -/
theorem insert_cases (key : Scalar) (v : Value) : ∀ entries : List (Scalar × Value),
    (insert key v entries).map (·.1) = entries.map (·.1) ∨
      (∀ e ∈ entries, e.1.same key = false) ∧ insert key v entries = entries ++ [(key, v)]
  | [] => .inr ⟨fun _ h => (List.not_mem_nil h).elim, rfl⟩
  | (k, w) :: rest => by
    rw [insert]
    split
    · exact .inl rfl
    · next hk =>
      have hk : k.same key = false := by simpa using hk
      rcases insert_cases key v rest with hkeys | ⟨hnew, heq⟩
      · exact .inl (by rw [List.map_cons, hkeys, List.map_cons])
      · refine .inr ⟨List.forall_mem_cons.mpr ⟨hk, hnew⟩, ?_⟩
        rw [heq, List.cons_append]

theorem exists_mem_of_findEntry {key : Scalar} {v : Value} : ∀ {entries : List (Scalar × Value)},
    findEntry key entries = some v → ∃ k, (k, v) ∈ entries
  | (k, w) :: entries, h => by
    unfold findEntry at h
    split at h
    · obtain rfl := Option.some.inj h
      exact ⟨k, List.mem_cons_self⟩
    · obtain ⟨k', hk'⟩ := exists_mem_of_findEntry h
      exact ⟨k', List.mem_cons_of_mem _ hk'⟩

theorem mem_insert {key : Scalar} {v : Value} : ∀ {entries : List (Scalar × Value)} {e : Scalar × Value},
    e ∈ insert key v entries → e.2 = v ∨ e ∈ entries
  | [], e, h => by
    rw [List.mem_singleton.mp h]
    exact .inl rfl
  | (k, w) :: entries, e, h => by
    unfold insert at h
    split at h
    · rcases List.mem_cons.mp h with rfl | h
      · exact .inl rfl
      · exact .inr (List.mem_cons_of_mem _ h)
    · rcases List.mem_cons.mp h with rfl | h
      · exact .inr List.mem_cons_self
      · exact (mem_insert h).imp id (List.mem_cons_of_mem _)

namespace Covers

theorem refl (h : Apart base) : Covers base base := ⟨List.prefix_rfl, h⟩

theorem insert (h : Covers base entries) (key : Scalar) (v : Value) : Covers base (insert key v entries) := by
  rcases insert_cases key v entries with hkeys | ⟨hnew, heq⟩
  · exact ⟨hkeys ▸ h.keys, (apart_iff_keys hkeys).mpr h.apart⟩
  · rw [heq]
    refine ⟨?_, List.pairwise_append.mpr ⟨h.apart, List.pairwise_singleton _ _, fun e he e' he' => ?_⟩⟩
    · rw [List.map_append]
      exact h.keys.trans (List.prefix_append _ _)
    · rw [List.mem_singleton.mp he']
      exact hnew e he

theorem overlay (h : Covers base entries) (added : List (Scalar × Value)) : Covers base (overlay entries added) := by
  induction added generalizing entries with
  | nil => exact h
  | cons e added ih => exact ih (h.insert e.1 e.2)

end Covers

/-! ## A map put over its base again -/

/-- Entries under new keys are added in order. -/
theorem overlay_of_new {added : List (Scalar × Value)} (h : Apart (entries ++ added)) :
    overlay entries added = entries ++ added := by
  induction added generalizing entries with
  | nil => exact (List.append_nil _).symm
  | cons e added ih =>
    change overlay (insert e.1 e.2 entries) added = _
    rw [insert_of_new h.new]
    rw [List.append_cons] at h
    rw [List.append_cons entries e added]
    exact ih h

/-- Entries under the keys of a map, in order, take the places of its own. -/
theorem overlay_same_keys {added rest done : List (Scalar × Value)} (hkeys : added.map (·.1) = rest.map (·.1))
    (h : Apart (done ++ added)) (hself : ∀ e ∈ rest, e.1.same e.1 = true) :
    overlay (done ++ rest) added = done ++ added := by
  induction added generalizing rest done with
  | nil =>
    obtain rfl : rest = [] := by simpa using hkeys.symm
    rfl
  | cons e added ih =>
    cases rest with
    | nil => cases hkeys
    | cons e' rest =>
      obtain ⟨hkey, hkeys⟩ := List.cons.inj hkeys
      have hkey : e.1 = e'.1 := hkey
      have hsame : e'.1.same e.1 = true := by
        rw [hkey]
        exact hself e' List.mem_cons_self
      change overlay (insert e.1 e.2 (done ++ e' :: rest)) added = _
      rw [insert_append h.new, insert, if_pos hsame, ← hkey, List.append_cons]
      rw [List.append_cons] at h
      rw [List.append_cons done e added]
      exact ih hkeys h fun e he => hself e (List.mem_cons_of_mem _ he)

/-- A map that covers a base is what it gives when it is put over the base. -/
theorem Covers.overlay_eq (h : Covers base entries) (hself : ∀ e ∈ base, e.1.same e.1 = true) :
    Value.overlay base entries = entries := by
  obtain ⟨more, hmore⟩ := h.keys
  have hfront : (entries.take base.length).map (·.1) = base.map (·.1) := by
    rw [List.map_take, ← hmore, List.take_left' (List.length_map _)]
  have happend := List.take_append_drop base.length entries
  have hapart := h.apart
  rw [← happend] at hapart
  have hplaced : Value.overlay ([] ++ base) (entries.take base.length) = [] ++ entries.take base.length :=
    overlay_same_keys hfront (List.pairwise_append.mp hapart).1 hself
  rw [List.nil_append, List.nil_append] at hplaced
  calc Value.overlay base entries
      = Value.overlay base (entries.take base.length ++ entries.drop base.length) := by rw [happend]
    _ = Value.overlay (Value.overlay base (entries.take base.length)) (entries.drop base.length) := List.foldl_append
    _ = entries.take base.length ++ entries.drop base.length := by rw [hplaced, overlay_of_new hapart]
    _ = entries := happend

end SupplyGate.Value

namespace SupplyGate

/-! ## Entries that were put in -/

theorem findEntry_insert_self {key : Scalar} (h : key.same key = true) (v : Value) :
    ∀ entries, findEntry key (Value.insert key v entries) = some v
  | [] => by simp [Value.insert, findEntry, h]
  | (k, w) :: entries => by
    by_cases hk : k.same key = true
    · simp [Value.insert, findEntry, hk]
    · simp [Value.insert, findEntry, hk, findEntry_insert_self h v entries]

/-- An entry is left alone by one that is put under a key to which none equal to its own is equal. -/
theorem findEntry_insert_ne {key other : Scalar} (h : key.same other = false)
    (hne : ∀ k : Scalar, k.same key = true → k.same other = false) (v : Value) :
    ∀ entries, findEntry other (Value.insert key v entries) = findEntry other entries
  | [] => by simp [Value.insert, findEntry, h]
  | (k, w) :: entries => by
    by_cases hk : k.same key = true
    · simp [Value.insert, findEntry, hk, hne k hk]
    · simp [Value.insert, findEntry, hk, findEntry_insert_ne h hne v entries]

theorem Scalar.same_str_ne {a b : String} (hab : a ≠ b) {k : Scalar} (h : k.same (.str a) = true) :
    k.same (.str b) = false := by
  unfold same at h ⊢
  obtain ⟨hkey, -⟩ := by simpa using h
  rw [hkey]
  simpa [Scalar.key] using hab

theorem Value.find?_insert_self (key : String) (v : Value) (entries : List (Scalar × Value)) :
    find? key (insert (.str key) v entries) = some v :=
  findEntry_insert_self (by simp [Scalar.same_str]) v entries

theorem Value.find?_insert_ne {key other : String} (h : other ≠ key) (v : Value) (entries : List (Scalar × Value)) :
    find? other (insert (.str key) v entries) = find? other entries :=
  findEntry_insert_ne (Scalar.same_str_ne h.symm (by simp [Scalar.same_str])) (fun _ => Scalar.same_str_ne h.symm) v entries

end SupplyGate
