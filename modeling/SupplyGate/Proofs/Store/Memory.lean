import Mathlib.Data.List.Basic
import SupplyGate.Proofs.Value.Reading
import SupplyGate.Store.Basic
import SupplyGate.Store.Memory

/-!
# Stores in memory

What look-ups give after a record was stored or erased, and each operation of a store that gives a
result in terms of look-up and `store`. Whatever a store keeps its records in, a record that is found by its
second key comes back changed, and one that is added comes back as it is.
-/

namespace SupplyGate.MemoryStore

variable {α : Type} {s t : MemoryStore α}

/-! ## Look-up -/

theorem lookup_replace_self (k : Key) (a : α) : ∀ rs, (replace k a rs).lookup k = some a
  | [] => by simp [replace]
  | (l, b) :: rs => by
    by_cases h : l = k
    · simp [replace, h]
    · have hkl : (k == l) = false := by simpa using Ne.symm h
      simp [replace, h, List.lookup_cons, hkl, lookup_replace_self k a rs]

theorem lookup_replace_ne {k l : Key} (h : l ≠ k) (a : α) :
    ∀ rs, (replace k a rs).lookup l = rs.lookup l
  | [] => by
    have hl : (l == k) = false := by simpa using h
    simp [replace, List.lookup_cons, hl]
  | (m, b) :: rs => by
    by_cases hm : m = k
    · have hl : (l == k) = false := by simpa using h
      simp [replace, hm, List.lookup_cons, hl]
    · simp [replace, hm, List.lookup_cons, lookup_replace_ne h a rs]

@[simp] theorem lookup_store_self (k : Key) (a : α) : (s.store k a).lookup k = some a :=
  lookup_replace_self k a _

theorem lookup_store_ne {k l : Key} (h : l ≠ k) (a : α) : (s.store k a).lookup l = s.lookup l :=
  lookup_replace_ne h a _

theorem lookup_filter_ne {k l : Key} (h : k ≠ l) : ∀ rs : List (Key × α),
    (rs.filter fun (n, _) => n ≠ l).lookup k = rs.lookup k
  | [] => rfl
  | (n, b) :: rs => by
    have ih : (rs.filter fun (n, _) => n ≠ l).lookup k = rs.lookup k := lookup_filter_ne h rs
    by_cases hn : n = l
    · have hkn : (k == n) = false := by simpa [hn] using h
      rw [List.filter_cons_of_neg (by simpa using hn), ih, List.lookup_cons, hkn]
    · rw [List.filter_cons_of_pos (by simpa using hn), List.lookup_cons, List.lookup_cons, ih]

theorem lookup_erase_ne {k l : Key} (h : k ≠ l) : (s.erase l).lookup k = s.lookup k := lookup_filter_ne h _

theorem lookup_erase_self (k : Key) : (s.erase k).lookup k = none := by
  refine List.lookup_eq_none_iff.mpr fun e he => ?_
  have hne : e.1 ≠ k := of_decide_eq_true (List.mem_filter.mp he).2
  simpa using hne.symm

theorem lookup_setIndex_self (key : String) (k : Key) : ∀ ix, (setIndex key k ix).lookup key = some k
  | [] => by simp [setIndex]
  | (n, l) :: ix => by
    by_cases h : n = key
    · simp [setIndex, h]
    · have hkn : (key == n) = false := by simpa using Ne.symm h
      simp [setIndex, h, List.lookup_cons, hkn, lookup_setIndex_self key k ix]

theorem lookup_setIndex_ne {key other : String} (h : other ≠ key) (k : Key) :
    ∀ ix, (setIndex key k ix).lookup other = ix.lookup other
  | [] => by
    have ho : (other == key) = false := by simpa using h
    simp [setIndex, List.lookup_cons, ho]
  | (n, l) :: ix => by
    by_cases hn : n = key
    · have ho : (other == key) = false := by simpa using h
      simp [setIndex, hn, List.lookup_cons, ho]
    · simp [setIndex, hn, List.lookup_cons, lookup_setIndex_ne h k ix]

/-- A new second key is set at the end. -/
theorem setIndex_of_new {key : String} {k : Key} {ix : List (String × Key)} (h : ix.lookup key = none) :
    setIndex key k ix = ix ++ [(key, k)] := by
  induction ix with
  | nil => rfl
  | cons e ix ih =>
    obtain ⟨other, l⟩ := e
    rw [List.lookup_cons] at h
    by_cases hne : other = key
    · subst hne
      simp at h
    · have hkey : (key == other) = false := by simpa using Ne.symm hne
      rw [hkey] at h
      rw [setIndex, if_neg hne, ih h, List.cons_append]

theorem byIndex_eq_some {key : String} {k : Key} {a : α} :
    s.byIndex key = some (k, a) ↔
      s.index.lookup key = some k ∧ isEmptyKey k = false ∧ s.lookup k = some a := by
  unfold byIndex
  cases s.index.lookup key with
  | none => simp
  | some l =>
    cases he : isEmptyKey l with
    | true =>
      simp only [Option.bind_eq_bind, Option.bind_some, he, if_true, Option.some.injEq]
      constructor
      · intro h
        cases h
      · rintro ⟨rfl, h, -⟩
        rw [he] at h
        cases h
    | false =>
      simp only [Option.bind_eq_bind, Option.bind_some, he, Bool.false_eq_true, if_false,
        Option.some.injEq]
      cases hl : s.lookup l with
      | none =>
        constructor
        · intro h
          cases h
        · rintro ⟨rfl, -, h⟩
          rw [hl] at h
          cases h
      | some b =>
        constructor
        · intro h
          cases h
          exact ⟨rfl, he, hl⟩
        · rintro ⟨rfl, -, h⟩
          rw [hl] at h
          cases h
          rfl

/-! ## Records -/

/-- Every record, and the key that it stands under, has a property. -/
def Every (P : Key → α → Prop) (s : MemoryStore α) : Prop := ∀ e ∈ s.records, P e.1 e.2

theorem Every.empty {P : Key → α → Prop} : Every P (empty : MemoryStore α) := by
  intro e he
  cases he

theorem mem_of_lookup {k : Key} {a : α} (h : s.lookup k = some a) : (k, a) ∈ s.records := by
  obtain ⟨l₁, l₂, he, -⟩ := List.lookup_eq_some_iff.mp h
  rw [he]
  simp

theorem Every.lookup {P : Key → α → Prop} (h : Every P s) {k : Key} {a : α}
    (hk : s.lookup k = some a) : P k a := h (k, a) (mem_of_lookup hk)

theorem mem_replace {k : Key} {a : α} : ∀ {rs : List (Key × α)} {e : Key × α},
    e ∈ replace k a rs → e = (k, a) ∨ e ∈ rs
  | [], e, h => by simpa [replace] using h
  | (l, b) :: rs, e, h => by
    unfold replace at h
    split at h
    · rcases List.mem_cons.mp h with rfl | h
      · exact .inl rfl
      · exact .inr (List.mem_cons_of_mem _ h)
    · rcases List.mem_cons.mp h with rfl | h
      · exact .inr List.mem_cons_self
      · exact (mem_replace h).imp id (List.mem_cons_of_mem _)

theorem Every.store {P : Key → α → Prop} (h : Every P s) {k : Key} {a : α} (ha : P k a) :
    Every P (s.store k a) := by
  intro e he
  rcases mem_replace he with rfl | he
  · exact ha
  · exact h e he

theorem Every.erase {P : Key → α → Prop} (h : Every P s) (k : Key) : Every P (s.erase k) :=
  fun e he => h e (List.mem_of_mem_filter he)

/-- No two records stand under one key. -/
def Distinct (s : MemoryStore α) : Prop := (s.records.map (·.1)).Nodup

theorem Distinct.empty : Distinct (empty : MemoryStore α) := List.nodup_nil

theorem mem_keys_replace {k l : Key} {a : α} : ∀ {rs : List (Key × α)},
    l ∈ (replace k a rs).map (·.1) ↔ l = k ∨ l ∈ rs.map (·.1)
  | [] => by simp [replace]
  | (n, b) :: rs => by
    by_cases hn : n = k
    · simp [replace, hn]
    · have ih : l ∈ (replace k a rs).map (·.1) ↔ l = k ∨ l ∈ rs.map (·.1) := mem_keys_replace
      simp only [replace, hn, if_false, List.map_cons, List.mem_cons, ih]
      tauto

theorem nodup_keys_replace {k : Key} {a : α} : ∀ {rs : List (Key × α)},
    (rs.map (·.1)).Nodup → ((replace k a rs).map (·.1)).Nodup
  | [], _ => by simp [replace]
  | (n, b) :: rs, h => by
    obtain ⟨hn, hrs⟩ := List.nodup_cons.mp h
    by_cases hnk : n = k
    · simpa [replace, hnk] using h
    · simp only [replace, hnk, if_false, List.map_cons]
      refine List.nodup_cons.mpr ⟨fun hmem => ?_, nodup_keys_replace hrs⟩
      exact (mem_keys_replace.mp hmem).elim hnk hn

theorem Distinct.store (h : Distinct s) (k : Key) (a : α) : Distinct (s.store k a) := nodup_keys_replace h

/-- Among distinct records each is found under its key. -/
theorem Distinct.lookup_of_mem (h : Distinct s) {k : Key} {a : α} (hmem : (k, a) ∈ s.records) :
    s.lookup k = some a := SupplyGate.lookup_of_mem h hmem

/-! ## Storing twice -/

theorem replace_replace (k : Key) (a b : α) : ∀ rs, replace k b (replace k a rs) = replace k b rs
  | [] => by simp [replace]
  | (l, c) :: rs => by
    by_cases h : l = k
    · simp [replace, h]
    · simp [replace, h, replace_replace k a b rs]

/-- A record is replaced where it stands. -/
theorem replace_append {k : Key} (a b : α) (after : List (Key × α)) : ∀ {before : List (Key × α)},
    k ∉ before.map (·.1) → replace k b (before ++ (k, a) :: after) = before ++ (k, b) :: after
  | [], _ => by simp [replace]
  | (l, c) :: before, h => by
    obtain ⟨hl, hk⟩ := not_or.mp (mt List.mem_cons.mpr h)
    simp [replace, Ne.symm hl, replace_append a b after hk]

/-- Where keys are distinct, a record is stored in the one place of its key. -/
theorem Distinct.store_eq (h : Distinct s) {k : Key} {a : α} {before after : List (Key × α)}
    (hs : s.records = before ++ (k, a) :: after) (b : α) :
    s.store k b = { s with records := before ++ (k, b) :: after } := by
  unfold Distinct at h
  rw [hs, List.map_append] at h
  have hk : k ∉ before.map (·.1) := fun hmem => (List.nodup_append.mp h).2.2 k hmem k List.mem_cons_self rfl
  rw [MemoryStore.store, hs, replace_append a b after hk]

theorem replace_of_lookup {k : Key} {a : α} : ∀ {rs : List (Key × α)}, rs.lookup k = some a →
    replace k a rs = rs
  | [], h => by simp at h
  | (l, b) :: rs, h => by
    by_cases hl : l = k
    · obtain rfl : b = a := by simpa [List.lookup_cons, hl] using h
      simp [replace, hl]
    · have hkl : (k == l) = false := by simpa using Ne.symm hl
      rw [List.lookup_cons, hkl] at h
      simp [replace, hl, replace_of_lookup h]

/-- A record under a new key is added at the end. -/
theorem replace_of_new {k : Key} {a : α} {rs : List (Key × α)} (h : rs.lookup k = none) : replace k a rs = rs ++ [(k, a)] := by
  induction rs with
  | nil => rfl
  | cons e rs ih =>
    obtain ⟨l, b⟩ := e
    rw [List.lookup_cons] at h
    cases hl : k == l with
    | true =>
      rw [hl] at h
      cases h
    | false =>
      rw [hl] at h
      have hne : l ≠ k := fun heq => by simp [heq] at hl
      rw [replace, if_neg hne, ih h, List.cons_append]

/-- A record that is there is replaced in its place. -/
theorem keys_replace {k : Key} (a : α) : ∀ {rs : List (Key × α)} {b : α}, rs.lookup k = some b →
    (replace k a rs).map (·.1) = rs.map (·.1)
  | [], b, h => by simp at h
  | (l, c) :: rs, b, h => by
    by_cases hl : l = k
    · simp [replace, hl]
    · have hkl : (k == l) = false := by simpa using Ne.symm hl
      rw [List.lookup_cons, hkl] at h
      simp [replace, hl, keys_replace a h]

/-- A record that is stored is the first one with a property that it has, if what was the first one
before, if anything, stood under its key. -/
theorem find?_replace {P : α → Bool} {k : Key} {a : α} (ha : P a = true) : ∀ {rs : List (Key × α)},
    (∀ b, (rs.map (·.2)).find? P = some b → ∀ l, (l, b) ∈ rs → l = k) →
      ((replace k a rs).map (·.2)).find? P = some a
  | [], _ => by simp [replace, ha]
  | (l, b) :: rs, h => by
    by_cases hl : l = k
    · simp [replace, hl, ha]
    · -- a first record that stands elsewhere does not have the property
      have hb : P b = false := by
        cases hb : P b with
        | false => rfl
        | true => exact absurd (h b (by simp [hb]) l List.mem_cons_self) hl
      have hrest : ∀ c, (rs.map (·.2)).find? P = some c → ∀ n, (n, c) ∈ rs → n = k := fun c hc n hn =>
        h c (by simpa [hb] using hc) n (List.mem_cons_of_mem _ hn)
      simp [replace, hl, hb, find?_replace ha hrest]

/-- Records under different keys may be replaced in either order, if one of them is there. -/
theorem replace_comm {k l : Key} (hkl : k ≠ l) (a b : α) : ∀ {rs : List (Key × α)} {c : α},
    rs.lookup k = some c → replace k a (replace l b rs) = replace l b (replace k a rs)
  | [], c, h => by simp at h
  | (n, d) :: rs, c, h => by
    by_cases hk : n = k
    · have hl : n ≠ l := hk ▸ hkl
      simp [replace, hk, hkl]
    · by_cases hl : n = l
      · simp [replace, hl, Ne.symm hkl]
      · have hkn : (k == n) = false := by simpa using Ne.symm hk
        rw [List.lookup_cons, hkn] at h
        simp [replace, hk, hl, replace_comm hkl a b h]

theorem store_store (k : Key) (a b : α) : (s.store k a).store k b = s.store k b :=
  congrArg (fun rs => { s with records := rs }) (replace_replace k a b s.records)

theorem store_of_lookup {k : Key} {a : α} (h : s.lookup k = some a) : s.store k a = s :=
  congrArg (fun rs => { s with records := rs }) (replace_of_lookup h)

theorem store_comm {k l : Key} (hkl : k ≠ l) (a b : α) {c : α} (h : s.lookup k = some c) :
    (s.store l b).store k a = (s.store k a).store l b :=
  congrArg (fun rs => { s with records := rs }) (replace_comm hkl a b h)

/-! ## Operations that give a result -/

theorem delete_ok {id : Value} {found : Bool} (h : s.delete id = .ok (found, t)) :
    t = s ∨ ∃ k, id.asKey = .ok k ∧ t = s.erase k := by
  obtain ⟨k, hk, h⟩ := Reading.bind_eq_ok.mp h
  split at h
  · cases h
    exact .inr ⟨k, hk, rfl⟩
  · cases h
    exact .inl rfl

theorem get_ok {id : Value} {o : Option α} :
    s.get id = .ok o ↔ ∃ k, id.asKey = .ok k ∧ o = s.lookup k := by
  rw [get, Reading.bind_eq_ok]
  exact exists_congr fun k => and_congr_right fun _ => Reading.pure_eq_ok.trans eq_comm

variable [Stored α]

theorem keyOf_text {a : α} {i : String} (h : Stored.ident a = .str i) : keyOf a = .ok (.str i) := by
  rw [keyOf, h]
  rfl

theorem put_ok {a : α} : s.put a = .ok t ↔ ∃ k, keyOf a = .ok k ∧ t = s.store k a := by
  rw [put, Reading.bind_eq_ok]
  exact exists_congr fun k => and_congr_right fun _ => Reading.pure_eq_ok.trans eq_comm

theorem add_ok {a : α} :
    s.add a = .ok t ↔ ∃ k, keyOf a = .ok k ∧ s.lookup k = none ∧ t = s.store k a := by
  rw [add, Reading.bind_eq_ok]
  refine exists_congr fun k => and_congr_right fun _ => ?_
  cases s.lookup k with
  | none =>
    simp only [Option.isSome_none, Bool.false_eq_true, if_false, Reading.pure_eq_ok, true_and]
    exact eq_comm
  | some b =>
    constructor
    · intro h
      obtain ⟨_, h, -⟩ := Reading.bind_eq_ok.mp h
      cases h
    · rintro ⟨⟨⟩, -⟩

/-- Where each record stands under the key of its id, one that was looked up is put back in its place
as long as its id stays. -/
theorem put_back {id : Value} {a b : α} (hkeyed : s.Every fun k a => keyOf a = .ok k)
    (ha : s.get id = .ok (some a)) (hid : Stored.ident b = Stored.ident a) (ht : s.put b = .ok t) :
    ∃ k, s.lookup k = some a ∧ t = s.store k b := by
  obtain ⟨k, -, hk⟩ := get_ok.mp ha
  obtain ⟨l, hl, rfl⟩ := put_ok.mp ht
  have hkl : keyOf b = .ok k := (congrArg Value.asKey hid).trans (hkeyed.lookup hk.symm)
  obtain rfl : k = l := Except.ok.inj (hkl.symm.trans hl)
  exact ⟨k, hk.symm, rfl⟩

/-- A record found by its second key is changed in its place. -/
structure Refreshed (s : MemoryStore α) (key : String) (change : α → α) (found : Found α)
    (t : MemoryStore α) (k : Key) (old : α) : Prop where
  here : s.byIndex key = some (k, old)
  found_eq : found = ⟨change old, some old⟩
  store_eq : ∃ l, keyOf (change old) = .ok l ∧ t = s.store l (change old)

/-- A record whose second key is new is added under a free id. -/
structure Added (s : MemoryStore α) (key : String) (a : α) (found : Found α) (t : MemoryStore α)
    (k : Key) : Prop where
  absent : s.byIndex key = none
  keyed : keyOf a = .ok k
  free : s.lookup k = none
  found_eq : found = ⟨a, none⟩
  store_eq : t = { s.store k a with index := setIndex key k s.index }

theorem getOrAdd_ok {key : String} {a : α} {change : α → α} {found : Found α}
    (h : s.getOrAdd key a change = .ok (found, t)) :
    (∃ k old, Refreshed s key change found t k old) ∨ ∃ k, Added s key a found t k := by
  unfold getOrAdd at h
  split at h
  · next k old hb =>
    obtain ⟨u, hu, h⟩ := Reading.bind_eq_ok.mp h
    cases h
    exact .inl ⟨k, old, hb, rfl, put_ok.mp hu⟩
  · next hb =>
    obtain ⟨u, hu, h⟩ := Reading.bind_eq_ok.mp h
    obtain ⟨k, hk, h⟩ := Reading.bind_eq_ok.mp h
    cases h
    obtain ⟨l, hl, hfree, rfl⟩ := add_ok.mp hu
    rw [hk, Except.ok.injEq] at hl
    subst hl
    exact .inr ⟨k, hb, hk, hfree, rfl, rfl⟩

theorem getOrAdd_of_some {key : String} {a old : α} {change : α → α} {k l : Key}
    (h : s.byIndex key = some (k, old)) (hl : keyOf (change old) = .ok l) :
    s.getOrAdd key a change = .ok (⟨change old, some old⟩, s.store l (change old)) := by
  rw [getOrAdd, h]
  exact Reading.bind_eq_ok.mpr ⟨_, put_ok.mpr ⟨l, hl, rfl⟩, rfl⟩

theorem getOrAdd_of_none {key : String} {a : α} {change : α → α} {k : Key}
    (h : s.byIndex key = none) (hk : keyOf a = .ok k) (hfree : s.lookup k = none) :
    s.getOrAdd key a change = .ok (⟨a, none⟩, { s.store k a with index := setIndex key k s.index }) := by
  rw [getOrAdd, h]
  refine Reading.bind_eq_ok.mpr ⟨_, add_ok.mpr ⟨k, hk, hfree, rfl⟩, ?_⟩
  exact Reading.bind_eq_ok.mpr ⟨k, hk, rfl⟩

end SupplyGate.MemoryStore

/-! ## Finding or adding in any store -/

namespace SupplyGate

variable {α : Type} [Stored α]

theorem DocumentStore.getOrAdd_record {s t : DocumentStore} {now : Timestamp} {key : String} {a : α}
    {change : α → α} {found : Found α} (h : s.getOrAdd now key a change = .ok (found, t)) :
    found.record = a ∨ ∃ old, found.record = change old := by
  unfold getOrAdd at h
  split at h
  · obtain ⟨old, -, h⟩ := Reading.bind_eq_ok.mp h
    obtain ⟨doc, -, h⟩ := Reading.bind_eq_ok.mp h
    cases h
    exact .inr ⟨old, rfl⟩
  · obtain ⟨row, -, h⟩ := Reading.bind_eq_ok.mp h
    split at h
    · obtain ⟨_, h, -⟩ := Reading.bind_eq_ok.mp h
      cases h
    · cases h
      exact .inl rfl

theorem Store.put_memory {m : MemoryStore α} {a : α} {t : Store α} :
    (Store.memory m).put a = .ok t ↔ ∃ m', m.put a = .ok m' ∧ t = .memory m' := by
  change (Store.memory <$> m.put a) = .ok t ↔ _
  cases m.put a <;> simp [Functor.map, Except.map, eq_comm]

theorem Store.put_documents {d : DocumentStore} {a : α} {t : Store α} :
    (Store.documents d).put a = .ok t ↔ ∃ d', d.put a = .ok d' ∧ t = .documents d' := by
  change (Store.documents <$> d.put a) = .ok t ↔ _
  cases d.put a <;> simp [Functor.map, Except.map, eq_comm]

theorem Store.add_memory {m : MemoryStore α} {a : α} {t : Store α} :
    (Store.memory m).add a = .ok t ↔ ∃ m', m.add a = .ok m' ∧ t = .memory m' := by
  change (Store.memory <$> m.add a) = .ok t ↔ _
  cases m.add a <;> simp [Functor.map, Except.map, eq_comm]

theorem Store.getOrAdd_memory {m : MemoryStore α} {now : Timestamp} {key : String} {a : α}
    {change : α → α} {found : Found α} {t : Store α} :
    (Store.memory m).getOrAdd now key a change = .ok (found, t) ↔
      ∃ m', m.getOrAdd key a change = .ok (found, m') ∧ t = .memory m' := by
  constructor
  · intro h
    obtain ⟨⟨found', m'⟩, hm, h⟩ := Reading.bind_eq_ok.mp h
    cases h
    exact ⟨m', hm, rfl⟩
  · rintro ⟨m', hm, rfl⟩
    exact Reading.bind_eq_ok.mpr ⟨_, hm, rfl⟩

theorem Store.getOrAdd_record {s t : Store α} {now : Timestamp} {key : String} {a : α}
    {change : α → α} {found : Found α} (h : s.getOrAdd now key a change = .ok (found, t)) :
    found.record = a ∨ ∃ old, found.record = change old := by
  cases s with
  | memory m =>
    obtain ⟨m', hm, -⟩ := Store.getOrAdd_memory.mp h
    rcases MemoryStore.getOrAdd_ok hm with ⟨k, old, hr⟩ | ⟨k, hk⟩
    · rw [hr.found_eq]
      exact .inr ⟨old, rfl⟩
    · rw [hk.found_eq]
      exact .inl rfl
  | documents m =>
    obtain ⟨⟨found', m'⟩, hm, h⟩ := Reading.bind_eq_ok.mp h
    cases h
    exact DocumentStore.getOrAdd_record hm

/-! ## Stores that gain a record -/

namespace Store

/-- The keys under which a store has records. -/
def keys : Store α → List Key
  | .memory m => m.records.map (·.1)
  | .documents d => d.rows.map fun row => .str row.ident

/-- A store without a record under the id of a record gains that record, and keeps all that it had. -/
inductive Gains (a : α) : Store α → Store α → Prop where
  | memory {m : MemoryStore α} {k : Key} (keyed : MemoryStore.keyOf a = .ok k) (free : m.lookup k = none) :
    Gains a (.memory m) (.memory { m with records := m.records ++ [(k, a)] })
  | documents {d : DocumentStore} {row : Row} (written : DocumentStore.rowOf a none = .ok row)
      (free : d.row? row.ident = none) : Gains a (.documents d) (.documents ⟨d.rows ++ [row]⟩)

variable {s t : Store α} {a : α} {i : String}

/-- The row of a record with a text for its id. -/
theorem rowOf_text {key : Option String} {row : Row} (hid : Stored.ident a = .str i)
    (h : DocumentStore.rowOf a key = .ok row) : row.ident = i ∧ DocumentStore.docOf a = .ok row.doc := by
  obtain ⟨doc, hdoc, h⟩ := Reading.bind_eq_ok.mp h
  obtain ⟨ident, hident, h⟩ := Reading.bind_eq_ok.mp h
  obtain ⟨tenant, -, h⟩ := Reading.bind_eq_ok.mp h
  obtain rfl := Reading.pure_eq_ok.mp h
  rw [hid] at hident
  exact ⟨(Except.ok.inj hident).symm, hdoc⟩

section New

variable {m : MemoryStore α} {d : DocumentStore} {k : Key}

end New

/-- A record that is put in adds no key but that of its id. -/
theorem mem_keys_put {k : Key} (hid : Stored.ident a = .str i) (h : s.put a = .ok t) (hk : k ∈ t.keys) :
    k = .str i ∨ k ∈ s.keys := by
  cases s with
  | memory m =>
    obtain ⟨m', hput, rfl⟩ := Store.put_memory.mp h
    obtain ⟨l, hl, rfl⟩ := MemoryStore.put_ok.mp hput
    obtain rfl := Except.ok.inj ((MemoryStore.keyOf_text hid).symm.trans hl)
    exact MemoryStore.mem_keys_replace.mp hk
  | documents d =>
    obtain ⟨d', hput, rfl⟩ := Store.put_documents.mp h
    obtain ⟨row, hrow, hput⟩ := Reading.bind_eq_ok.mp hput
    obtain ⟨hident, -⟩ := rowOf_text hid hrow
    cases hold : d.row? row.ident with
    | none =>
      rw [hold] at hput
      obtain rfl := Reading.pure_eq_ok.mp hput
      rw [← hident]
      simpa [keys, or_comm] using hk
    | some old =>
      rw [hold] at hput
      obtain rfl := Reading.pure_eq_ok.mp hput
      -- The row is rewritten in its place and keeps its id.
      obtain ⟨r, hr, rfl⟩ := List.mem_map.mp hk
      obtain ⟨r', hr', rfl⟩ := List.mem_map.mp hr
      right
      refine List.mem_map.mpr ⟨r', hr', ?_⟩
      split <;> rfl

namespace Gains

/-- A record that is found before is found afterwards. -/
theorem get (h : s.Gains a t) {now : Timestamp} {id : Value} {b : α} (hb : s.get now id = .ok (some b)) :
    t.get now id = .ok (some b) := by
  cases h with
  | @memory m k =>
    obtain ⟨l, hl, hlookup⟩ := MemoryStore.get_ok.mp hb
    refine MemoryStore.get_ok.mpr ⟨l, hl, ?_⟩
    change some b = (m.records ++ [(k, a)]).lookup l
    have hlookup : m.records.lookup l = some b := hlookup.symm
    rw [List.lookup_append, hlookup]
    rfl
  | @documents d row =>
    obtain ⟨scalar, hscalar, hb⟩ := Reading.bind_eq_ok.mp hb
    refine Reading.bind_eq_ok.mpr ⟨scalar, hscalar, ?_⟩
    cases hcolumn : DocumentStore.scalarColumn? scalar with
    | none => rw [hcolumn] at hb; cases hb
    | some ident =>
      rw [hcolumn] at hb
      cases hrow : d.row? ident with
      | none => rw [Option.bind_some, hrow] at hb; cases hb
      | some r =>
        have hfound : (⟨d.rows ++ [row]⟩ : DocumentStore).row? ident = some r := by
          have hrow : d.rows.find? (·.ident = ident) = some r := hrow
          rw [DocumentStore.row?, List.find?_append, hrow]
          rfl
        rw [Option.bind_some, hrow] at hb
        rw [Option.bind_some, hfound]
        exact hb

end Gains

end Store

end SupplyGate
