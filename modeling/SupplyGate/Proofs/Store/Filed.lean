import SupplyGate.Proofs.Policy.Identity
import SupplyGate.Proofs.Store.Memory

/-!
# Violations by the text of their findings

A store of violations is `Filed` when its index leads, by the text of a finding, to a violation with
that text. Triage and detection keep a store so. A finding is then looked up under its own text and
touches no violation that has another.
-/

namespace SupplyGate.MemoryStore

/-- Each violation stands under the key of its id, and the index leads by a text to a violation that
has it. -/
structure Filed (m : MemoryStore Violation) : Prop where
  keyed : m.Every fun k v => keyOf v = .ok k
  indexed : ∀ key k, m.index.lookup key = some k → ∃ v, m.lookup k = some v ∧ v.key = key

theorem Filed.empty : Filed (empty : MemoryStore Violation) where
  keyed := Every.empty
  indexed key k h := by cases h

variable {m t : MemoryStore Violation} {k : Key} {v w : Violation}

/-- A violation may be replaced by one with its id and its text. -/
theorem Filed.replaced (h : m.Filed) (hv : m.lookup k = some v) (hid : w.id = v.id)
    (hkey : w.key = v.key) : (m.store k w).Filed where
  keyed := by
    refine h.keyed.store ?_
    rw [← h.keyed.lookup hv]
    exact congrArg Value.asKey hid
  indexed key l hl := by
    obtain ⟨u, hu, huk⟩ := h.indexed key l hl
    by_cases hlk : l = k
    · subst hlk
      obtain rfl : u = v := Option.some.inj (hu.symm.trans hv)
      exact ⟨w, lookup_store_self l w, hkey.trans huk⟩
    · exact ⟨u, (lookup_store_ne hlk w).trans hu, huk⟩

/-- A violation that was looked up may be put back with its id and its text. -/
theorem Filed.put {id : Value} (h : m.Filed) (hv : m.get id = .ok (some v)) (hid : w.id = v.id)
    (hkey : w.key = v.key) (ht : m.put w = .ok t) : t.Filed := by
  obtain ⟨k, hk, rfl⟩ := put_back h.keyed hv hid ht
  exact h.replaced hk hid hkey

variable {now : Timestamp} {found : Found Violation}

/-- A violation that a finding refreshes has the text of the finding, and is replaced in its place. -/
theorem Filed.refreshed (h : m.Filed)
    (hr : Refreshed m v.key (Finding.seenAgain now v) found t k w) :
    m.lookup k = some w ∧ w.key = v.key ∧ t = m.store k (Finding.seenAgain now v w) := by
  obtain ⟨hindex, -, hold⟩ := byIndex_eq_some.mp hr.here
  obtain ⟨u, hu, huk⟩ := h.indexed _ _ hindex
  obtain rfl : u = w := Option.some.inj (hu.symm.trans hold)
  obtain ⟨l, hl, rfl⟩ := hr.store_eq
  have hkl : keyOf (Finding.seenAgain now v u) = .ok k :=
    (congrArg Value.asKey (Finding.id_seenAgain now v u)).trans (h.keyed.lookup hold)
  obtain rfl : k = l := Except.ok.inj (hkl.symm.trans hl)
  exact ⟨hold, huk, rfl⟩

/-- The record of a finding has its text. -/
theorem Filed.getOrAdd_key (h : m.Filed)
    (hg : m.getOrAdd v.key v (Finding.seenAgain now v) = .ok (found, t)) : found.record.key = v.key := by
  rcases getOrAdd_ok hg with ⟨k, old, hr⟩ | ⟨k, ha⟩
  · obtain ⟨-, hkey, -⟩ := h.refreshed hr
    rw [hr.found_eq, Finding.key_seenAgain, hkey]
  · rw [ha.found_eq]

theorem Filed.getOrAdd (h : m.Filed)
    (hg : m.getOrAdd v.key v (Finding.seenAgain now v) = .ok (found, t)) : t.Filed := by
  rcases getOrAdd_ok hg with ⟨k, old, hr⟩ | ⟨k, ha⟩
  · obtain ⟨hold, -, rfl⟩ := h.refreshed hr
    exact h.replaced hold (Finding.id_seenAgain now v old) (Finding.key_seenAgain now v old)
  · rw [ha.store_eq]
    refine ⟨h.keyed.store ha.keyed, fun key l hl => ?_⟩
    change (setIndex v.key k m.index).lookup key = some l at hl
    by_cases hkey : key = v.key
    · subst hkey
      rw [lookup_setIndex_self, Option.some.injEq] at hl
      subst hl
      exact ⟨v, lookup_store_self k v, rfl⟩
    · rw [lookup_setIndex_ne hkey] at hl
      obtain ⟨u, hu, huk⟩ := h.indexed key l hl
      have hlk : l ≠ k := by
        rintro rfl
        rw [ha.free] at hu
        cases hu
      exact ⟨u, (lookup_store_ne hlk v).trans hu, huk⟩

/-- A finding leaves alone the violations that have another text. -/
theorem Filed.getOrAdd_frame (h : m.Filed)
    (hg : m.getOrAdd v.key v (Finding.seenAgain now v) = .ok (found, t)) (hw : m.lookup k = some w)
    (hne : w.key ≠ v.key) : t.lookup k = some w := by
  rcases getOrAdd_ok hg with ⟨l, old, hr⟩ | ⟨l, ha⟩
  · obtain ⟨hold, hkey, rfl⟩ := h.refreshed hr
    have hkl : k ≠ l := by
      rintro rfl
      obtain rfl : w = old := Option.some.inj (hw.symm.trans hold)
      exact hne hkey
    exact (lookup_store_ne hkl _).trans hw
  · have hkl : k ≠ l := by
      rintro rfl
      rw [ha.free] at hw
      cases hw
    rw [ha.store_eq]
    exact (lookup_store_ne hkl v).trans hw

end SupplyGate.MemoryStore
