import Mathlib.Data.List.Perm.Subperm
import SupplyGate.Proofs.Value.Overlay

/-!
# Equality of values

`Value.same` decides equality by running through the left side, and takes a map for equal to another one when
there are as many entries in both and each entry on the left has an equal one on the right. On values that
documents are made of (`Value.Plain`) this is the equality that it should be (`same_iff_equal`): numbers by
value, lists item by item, and maps key by key from both sides (`Value.Equal`), which is an equivalence.
-/

namespace SupplyGate

/-- A scalar is null, a truth value, a number other than NaN, or a text. -/
def Scalar.Plain : Scalar → Prop
  | .null | .bool _ | .int _ | .str _ => True
  | .float x => Number.Extended.ofFloat x ≠ .nan
  | .time _ | .date _ => False

/-- A value is built from plain scalars by lists, and by maps in which no key comes twice. -/
inductive Value.Plain : Value → Prop where
  | scalar {s : Scalar} (plain : s.Plain) : Plain (.scalar s)
  | list {items : List Value} (plain : ∀ v ∈ items, Plain v) : Plain (.list items)
  | map {entries : List (Scalar × Value)} (keys : ∀ e ∈ entries, e.1.Plain) (apart : Value.Apart entries)
    (values : ∀ e ∈ entries, Plain e.2) : Plain (.map entries)

/-- Two values are equal: scalars with equal keys, lists with equal items in the same places, and maps with the
same keys and equal values under them. -/
inductive Value.Equal : Value → Value → Prop where
  | scalar {a b : Scalar} (key : a.key = b.key) : Equal (.scalar a) (.scalar b)
  | list {xs ys : List Value} (length : xs.length = ys.length)
    (items : ∀ (i : Nat) (x y : Value), xs[i]? = some x → ys[i]? = some y → Equal x y) : Equal (.list xs) (.list ys)
  | map {xs ys : List (Scalar × Value)} (keys : ∀ k, (findEntry k xs).isSome = (findEntry k ys).isSome)
    (values : ∀ k v w, findEntry k xs = some v → findEntry k ys = some w → Equal v w) : Equal (.map xs) (.map ys)

/-! ## Keys -/

theorem Scalar.Plain.key_ne_nan {s : Scalar} (h : s.Plain) : s.key ≠ .number .nan := by
  cases s with
  | bool b => simp [key, Number.Extended.ofInt]
  | int n => simp [key, Number.Extended.ofInt]
  | float x => exact fun hkey => h (Key.number.inj hkey)
  | _ => simp [key]

/-- Plain scalars are the same where their keys are. -/
theorem Scalar.Plain.same_iff {s t : Scalar} (h : s.Plain) : s.same t = true ↔ s.key = t.key := by
  simp [same, h.key_ne_nan]

namespace Value

variable {xs ys : List (Scalar × Value)} {k : Scalar} {v : Value}

/-- The keys of a map, up to equality. -/
def keys (entries : List (Scalar × Value)) : List Key := entries.map (·.1.key)

theorem Apart.nodup_keys (hplain : ∀ e ∈ xs, e.1.Plain) (h : Apart xs) : (keys xs).Nodup := by
  refine List.pairwise_map.mpr (List.Pairwise.imp_of_mem (fun {e e'} he _ hne => ?_) h)
  intro hkey
  rw [(hplain e he).same_iff.mpr hkey] at hne
  exact absurd hne (by decide)

theorem findEntry_isSome (hplain : ∀ e ∈ xs, e.1.Plain) : (findEntry k xs).isSome ↔ k.key ∈ keys xs := by
  induction xs with
  | nil => simp [findEntry, keys]
  | cons e xs ih =>
    obtain ⟨he, hplain⟩ := List.forall_mem_cons.mp hplain
    have hsame := he.same_iff (t := k)
    rw [findEntry, keys, List.map_cons, List.mem_cons]
    split
    · next h => simp [hsame.mp h]
    · next h =>
      have hne : k.key ≠ e.1.key := fun heq => h (hsame.mpr heq.symm)
      rw [ih hplain, or_iff_right hne, keys]

/-- What is found under a key stands under it in the map. -/
theorem mem_of_findEntry (hplain : ∀ e ∈ xs, e.1.Plain) (h : findEntry k xs = some v) :
    ∃ k', (k', v) ∈ xs ∧ k'.key = k.key := by
  induction xs with
  | nil => simp [findEntry] at h
  | cons e xs ih =>
    obtain ⟨he, hplain⟩ := List.forall_mem_cons.mp hplain
    rw [findEntry] at h
    split at h
    · next hsame =>
      obtain rfl := Option.some.inj h
      exact ⟨e.1, List.mem_cons_self, he.same_iff.mp hsame⟩
    · obtain ⟨k', hk', hkey⟩ := ih hplain h
      exact ⟨k', List.mem_cons_of_mem _ hk', hkey⟩

/-- Where no key comes twice, each entry is found under its key. -/
theorem findEntry_of_mem (hplain : ∀ e ∈ xs, e.1.Plain) (h : Apart xs) (hk : (k, v) ∈ xs) : findEntry k xs = some v := by
  induction xs with
  | nil => exact (List.not_mem_nil hk).elim
  | cons e xs ih =>
    obtain ⟨he, hplain⟩ := List.forall_mem_cons.mp hplain
    obtain ⟨hfirst, hrest⟩ := List.pairwise_cons.mp h
    rw [findEntry]
    rcases List.mem_cons.mp hk with rfl | hk
    · rw [if_pos (he.same_iff.mpr rfl)]
    · rw [if_neg (by simp [hfirst _ hk]), ih hplain hrest hk]

theorem findEntry_congr {l : Scalar} (hplain : ∀ e ∈ xs, e.1.Plain) (h : k.key = l.key) :
    findEntry k xs = findEntry l xs := by
  induction xs with
  | nil => rfl
  | cons e xs ih =>
    obtain ⟨he, hplain⟩ := List.forall_mem_cons.mp hplain
    have hsame : e.1.same k = e.1.same l := by rw [Bool.eq_iff_iff, he.same_iff, he.same_iff, h]
    rw [findEntry, findEntry, hsame, ih hplain]

/-! ## Maps from one side -/

theorem sameEntries_iff : sameEntries xs ys = true ↔
    ∀ e ∈ xs, ∃ w, findEntry e.1 ys = some w ∧ e.2.same w = true := by
  induction xs with
  | nil => simp [sameEntries]
  | cons e xs ih =>
    rw [sameEntries, Bool.and_eq_true, ih, List.forall_mem_cons]
    refine and_congr_left' ?_
    cases findEntry e.1 ys <;> simp

/-- A map whose keys are all in another one has them all when it has as many entries. -/
theorem keys_perm (hxs : (keys xs).Nodup) (hsub : ∀ k ∈ keys xs, k ∈ keys ys) (hlen : xs.length = ys.length) :
    (keys xs).Perm (keys ys) :=
  (List.subperm_of_subset hxs hsub).perm_of_length_le (by simp [keys, hlen])

/-- Equality from the left is equality from both sides, for maps in which no key comes twice. -/
theorem sameEntries_iff_agree (hxs : ∀ e ∈ xs, e.1.Plain) (hys : ∀ e ∈ ys, e.1.Plain) (hax : Apart xs) (hay : Apart ys) :
    (xs.length = ys.length ∧ sameEntries xs ys = true) ↔
      (∀ k, (findEntry k xs).isSome = (findEntry k ys).isSome) ∧
        ∀ k v w, findEntry k xs = some v → findEntry k ys = some w → v.same w = true := by
  rw [sameEntries_iff]
  constructor
  · rintro ⟨hlen, hentries⟩
    have hperm : (keys xs).Perm (keys ys) := by
      refine keys_perm (hax.nodup_keys hxs) (fun key hkey => ?_) hlen
      obtain ⟨e, he, rfl⟩ := List.mem_map.mp hkey
      obtain ⟨w, hw, -⟩ := hentries e he
      exact (findEntry_isSome hys).mp (Option.isSome_of_eq_some hw)
    refine ⟨fun k => ?_, fun k v w hv hw => ?_⟩
    · rw [Bool.eq_iff_iff, findEntry_isSome hxs, findEntry_isSome hys, hperm.mem_iff]
    · obtain ⟨k', hk', hkey⟩ := mem_of_findEntry hxs hv
      obtain ⟨w', hw', hsame⟩ := hentries _ hk'
      rw [findEntry_congr hys hkey, hw] at hw'
      rwa [Option.some.inj hw']
  · rintro ⟨hkeys, hvalues⟩
    have hmem : ∀ key, key ∈ keys xs ↔ key ∈ keys ys := by
      intro key
      constructor <;> intro h <;> obtain ⟨e, -, rfl⟩ := List.mem_map.mp h
      · rwa [← findEntry_isSome hys, ← hkeys, findEntry_isSome hxs]
      · rwa [← findEntry_isSome hxs, hkeys, findEntry_isSome hys]
    refine ⟨?_, fun e he => ?_⟩
    · have hperm := (List.perm_ext_iff_of_nodup (hax.nodup_keys hxs) (hay.nodup_keys hys)).mpr hmem
      simpa [keys] using hperm.length_eq
    · have hfound : findEntry e.1 xs = some e.2 := findEntry_of_mem hxs hax he
      have hsome : (findEntry e.1 ys).isSome := by rw [← hkeys, hfound, Option.isSome_some]
      obtain ⟨w, hw⟩ := Option.isSome_iff_exists.mp hsome
      exact ⟨w, hw, hvalues _ _ _ hfound hw⟩

theorem sameItems_iff : ∀ {items others : List Value}, sameItems items others = true ↔
    items.length = others.length ∧ ∀ (i : Nat) (x y : Value), items[i]? = some x → others[i]? = some y → x.same y = true
  | [], [] => by simp [sameItems]
  | [], y :: ys => by simp [sameItems]
  | x :: xs, [] => by simp [sameItems]
  | x :: xs, y :: ys => by
    rw [sameItems, Bool.and_eq_true, sameItems_iff, List.length_cons, List.length_cons, Nat.add_right_cancel_iff]
    constructor
    · rintro ⟨hfirst, hlen, hrest⟩
      refine ⟨hlen, fun i a b ha hb => ?_⟩
      cases i with
      | zero => simpa [← Option.some.inj ha, ← Option.some.inj hb] using hfirst
      | succ i => exact hrest i a b ha hb
    · rintro ⟨hlen, h⟩
      exact ⟨h 0 x y rfl rfl, hlen, fun i a b ha hb => h (i + 1) a b ha hb⟩

/-! ## Equality -/

/-- The decision is equality, on plain values. -/
theorem same_iff_equal {v w : Value} (hv : v.Plain) (hw : w.Plain) : v.same w = true ↔ v.Equal w := by
  induction hv generalizing w with
  | @scalar s hs =>
    cases hw with
    | scalar ht =>
      rw [same, hs.same_iff]
      exact ⟨.scalar, fun hequal => by cases hequal; assumption⟩
    | _ => exact ⟨fun h => by simp [same] at h, fun hequal => by cases hequal⟩
  | @list xs _ ih =>
    cases hw with
    | @list ys hys =>
      have hitems : ∀ (i : Nat) (x y : Value), xs[i]? = some x → ys[i]? = some y → (x.same y = true ↔ x.Equal y) :=
        fun i x y hx hy => ih x (List.mem_of_getElem? hx) (hys y (List.mem_of_getElem? hy))
      rw [same, sameItems_iff]
      constructor
      · rintro ⟨hlen, h⟩
        exact .list hlen fun i x y hx hy => (hitems i x y hx hy).mp (h i x y hx hy)
      · rintro (_ | ⟨hlen, h⟩ | _)
        exact ⟨hlen, fun i x y hx hy => (hitems i x y hx hy).mpr (h i x y hx hy)⟩
    | _ => exact ⟨fun h => by simp [same] at h, fun hequal => by cases hequal⟩
  | @map xs hxs hax _ ih =>
    cases hw with
    | @map ys hys hay hvys =>
      have hvalues : ∀ k v w, findEntry k xs = some v → findEntry k ys = some w → (v.same w = true ↔ v.Equal w) := by
        intro k v w hv hw
        obtain ⟨k₁, hv, -⟩ := mem_of_findEntry hxs hv
        obtain ⟨k₂, hw, -⟩ := mem_of_findEntry hys hw
        exact ih _ hv (hvys _ hw)
      rw [same, Bool.and_eq_true, beq_iff_eq, sameEntries_iff_agree hxs hys hax hay]
      constructor
      · rintro ⟨hkeys, h⟩
        exact .map hkeys fun k v w hv hw => (hvalues k v w hv hw).mp (h k v w hv hw)
      · rintro (_ | _ | ⟨hkeys, h⟩)
        exact ⟨hkeys, fun k v w hv hw => (hvalues k v w hv hw).mpr (h k v w hv hw)⟩
    | _ => exact ⟨fun h => by simp [same] at h, fun hequal => by cases hequal⟩

theorem Plain.equal_self {v : Value} (h : v.Plain) : v.Equal v := by
  induction h with
  | scalar => exact .scalar rfl
  | list _ ih =>
    refine .list rfl fun i x y hx hy => ?_
    obtain rfl := Option.some.inj (hx.symm.trans hy)
    exact ih x (List.mem_of_getElem? hx)
  | map hplain _ _ ih =>
    refine .map (fun _ => rfl) fun k v w hv hw => ?_
    obtain rfl := Option.some.inj (hv.symm.trans hw)
    obtain ⟨k', hk', -⟩ := mem_of_findEntry hplain hv
    exact ih _ hk'

theorem Equal.symm {v w : Value} (h : v.Equal w) : w.Equal v := by
  induction h with
  | scalar hkey => exact .scalar hkey.symm
  | list hlen _ ih => exact .list hlen.symm fun i x y hx hy => ih i y x hy hx
  | map hkeys _ ih => exact .map (fun k => (hkeys k).symm) fun k v w hv hw => ih k w v hw hv

theorem Equal.trans {u v w : Value} (h : u.Equal v) (h' : v.Equal w) : u.Equal w := by
  induction h generalizing w with
  | scalar hkey =>
    obtain ⟨hkey'⟩ | _ | _ := h'
    exact .scalar (hkey.trans hkey')
  | @list xs ys hlen _ ih =>
    obtain _ | ⟨hlen', h'⟩ | _ := h'
    refine .list (hlen.trans hlen') fun i x z hx hz => ?_
    -- the item in between stands in the same place
    obtain ⟨y, hy⟩ : ∃ y, ys[i]? = some y := by
      obtain ⟨hi, -⟩ := List.getElem?_eq_some_iff.mp hx
      have hi : i < ys.length := hlen ▸ hi
      exact ⟨ys[i], List.getElem?_eq_getElem hi⟩
    exact ih i x y hx hy (h' i y z hy hz)
  | @map xs ys hkeys _ ih =>
    obtain _ | _ | ⟨hkeys', h'⟩ := h'
    refine .map (fun k => (hkeys k).trans (hkeys' k)) fun k x z hx hz => ?_
    obtain ⟨y, hy⟩ : ∃ y, findEntry k ys = some y := by
      rw [← Option.isSome_iff_exists, ← hkeys, hx, Option.isSome_some]
    exact ih k x y hx hy (h' k y z hy hz)

end Value
end SupplyGate
