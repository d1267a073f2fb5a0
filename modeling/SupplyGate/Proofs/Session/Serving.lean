import SupplyGate.Proofs.Gate.Skipping
import SupplyGate.Proofs.Session.Invariants

/-!
# What a service knows of its policies

A service stores a policy only after validation, under an id that is a key, and later changes it only
in ways that leave alone what validation promised. So over every run of requests the policies of a
service stay accepted and its violations countable.
-/

namespace SupplyGate

open Gate

/-- An orderly gate whose policies are in memory, and were accepted. -/
structure Serving (s : GateState) : Prop extends Orderly s where
  policies : ∃ m, s.policies = .memory m ∧ m.Every fun _ p => p.Accepted

theorem Policy.Alike.checked {p q : Policy} (h : p.Alike q) (hp : p.Checked) : q.Checked := by
  intro r hr
  obtain ⟨r', hr', id, rfl⟩ := exists_of_forall₂ h.rules r hr
  exact ⟨(hp r' hr').severity, (hp r' hr').joins⟩

theorem accepted_of_key {p : Policy} {k : Key} (hp : p.Checked) (hk : MemoryStore.keyOf p = .ok k) :
    p.Accepted := by
  obtain ⟨id, hid, -⟩ := Reading.bind_eq_ok.mp (show p.id.asKey = .ok k from hk)
  exact ⟨hp, Value.asScalar_ok_iff.mp ⟨id, hid⟩⟩

theorem Serving.start (now : Timestamp) (ids : Ids) : Serving (.start .memory now ids) where
  toOrderly := .start now ids
  policies := ⟨.empty, rfl, .empty⟩

/-- The policies are in memory, and were accepted. -/
def Accepting (s : GateState) : Prop := ∃ m, s.policies = .memory m ∧ m.Every fun _ p => p.Accepted

/-- A policy that validation let through may be put in under a key. -/
theorem Accepting.stored {s : GateState} {m : MemoryStore Policy} {p : Policy} {k : Key} (h : Accepting s)
    (hm : s.policies = .memory m) (hp : p.Checked) (hk : MemoryStore.keyOf p = .ok k) :
    Accepting { s with policies := .memory (m.store k p) } := by
  obtain ⟨m', hm', hevery⟩ := h
  obtain rfl : m = m' := by simpa [hm] using hm'
  exact ⟨_, rfl, hevery.store (accepted_of_key hp hk)⟩

/-- A service keeps its policies accepted. -/
theorem accepting_law : Law Accepting Policy.Checked Policy.Accepted where
  recorded _ _ _ hs _ := hs
  numbered _ _ hs := hs
  published _ _ hs := hs
  called _ _ hs := hs
  checked _ := Validation.checked_of_check
  alike _ _ hp h := h.checked hp
  stored _ hp := hp.checked
  found s id p hs hp := by
    obtain ⟨m, hm, hevery⟩ := hs
    rw [hm] at hp
    obtain ⟨k, -, hk⟩ := MemoryStore.get_ok.mp hp
    exact hevery.lookup hk.symm
  listed s tenant ps hs hps p hp := by
    obtain ⟨m, hm, hevery⟩ := hs
    rw [hm] at hps
    cases hps
    obtain ⟨e, he, rfl⟩ := List.mem_map.mp (List.mem_of_mem_filter hp)
    exact hevery e he
  every s ps hs hps p hp := by
    obtain ⟨m, hm, hevery⟩ := hs
    rw [hm] at hps
    cases hps
    obtain ⟨e, he, rfl⟩ := List.mem_map.mp hp
    exact hevery e he
  added s p t hs hp ht := by
    obtain ⟨m, hm, -⟩ := id hs
    rw [hm] at ht
    obtain ⟨m', hm', rfl⟩ := Store.add_memory.mp ht
    obtain ⟨k, hk, -, rfl⟩ := MemoryStore.add_ok.mp hm'
    exact hs.stored hm hp hk
  put s p t hs hp ht := by
    obtain ⟨m, hm, -⟩ := id hs
    rw [hm] at ht
    obtain ⟨m', hm', rfl⟩ := Store.put_memory.mp ht
    obtain ⟨k, hk, rfl⟩ := MemoryStore.put_ok.mp hm'
    exact hs.stored hm hp hk
  deleted s id b t hs ht := by
    obtain ⟨m, hm, hevery⟩ := hs
    rw [hm] at ht
    obtain ⟨⟨found, m'⟩, hm', h⟩ := Reading.bind_eq_ok.mp ht
    cases h
    refine ⟨m', rfl, ?_⟩
    rcases MemoryStore.delete_ok hm' with rfl | ⟨k, -, rfl⟩
    · exact hevery
    · exact hevery.erase k
  triaged _ _ _ _ _ hs _ _ _ := hs
  detected _ _ _ _ _ _ _ _ := keeps_detect_of (fun _ _ => id) (fun _ _ => id) fun _ _ => id
  strategy _ _ _ hs _ := hs
  clocked _ _ hs := hs

/-- The ranked policies of a tenant are accepted ones, and all of them are of the tenant. -/
theorem Accepting.ranked {s : GateState} {tenantId : Value} {stored ranked : List Policy} (hs : Accepting s)
    (hstored : s.policies.ofTenant s.now tenantId = .ok stored)
    (hranked : sortDescending (·.priority) stored = .ok ranked) :
    (∀ p ∈ ranked, p.Accepted) ∧ ranked.filter (·.tenantId.same tenantId) = ranked := by
  have hmem : ∀ p ∈ ranked, p ∈ stored := fun p hp => (sortDescending_perm hranked).mem_iff.mp hp
  refine ⟨fun p hp => accepting_law.listed s tenantId stored hs hstored p (hmem p hp), ?_⟩
  obtain ⟨m, hm, -⟩ := hs
  rw [hm] at hstored
  cases hstored
  exact List.filter_eq_self.mpr fun p hp => (List.mem_filter.mp (hmem p hp)).2

/-- A violation that is put back after triage stays countable. -/
theorem countable_triaged {s : GateState} {id : Value} {v w : Violation} {t : Store Violation}
    (h : FiledWith (fun m => m.Every fun _ v => v.Countable) s) (hv : s.violations.get s.now id = .ok (some v))
    (hw : v.Triaged w) (ht : s.violations.put w = .ok t) :
    FiledWith (fun m => m.Every fun _ v => v.Countable) { s with violations := t } := by
  obtain ⟨m, hm, hfiled, hcount⟩ := h
  rw [hm] at hv ht
  obtain ⟨m', hm', rfl⟩ := Store.put_memory.mp ht
  have hid : w.id = v.id := by rw [hw]
  obtain ⟨k, hk, rfl⟩ := MemoryStore.put_back hfiled.keyed hv hid hm'
  have hfiled' := hfiled.put hv hid (by rw [hw]; exact rfl) hm'
  have hcountable : w.Countable := by
    rw [hw]
    exact ⟨(hcount.lookup hk).severity, (hcount.lookup hk).policyId⟩
  exact ⟨_, rfl, hfiled', hcount.store hcountable⟩

/-- A service keeps its violations and results orderly. -/
theorem orderly_aside : Aside Orderly Policy.Accepted where
  toRunLaw := orderly_runLaw
  policies _ _ hs := hs.frame rfl rfl rfl rfl
  strategies _ _ hs := hs.frame rfl rfl rfl rfl
  clocked _ _ hs := hs.frame rfl rfl rfl rfl
  triaged s id v w t hs hv hw ht :=
    ⟨numbered_law.triaged s id v w t hs.numbered hv hw ht, countable_triaged hs.countable hv hw ht, hs.results⟩
  detected p hp r hr d o c now s hs := by
    have horderly : Yields (fun t => Orderly t ∧ t.now = s.now) (detect p r d o c now) (·.Countable) :=
      orderly_detect hp hr
    exact ⟨(horderly s ⟨hs, rfl⟩).1.1, fun _ _ => trivial⟩

/-- A service keeps its policies accepted and its violations countable. -/
theorem serving_law : Law Serving Policy.Checked Policy.Accepted := by
  have heq : Serving = fun s => Accepting s ∧ Orderly s :=
    funext fun s => propext ⟨fun h => ⟨h.policies, h.toOrderly⟩, fun h => ⟨h.2, h.1⟩⟩
  rw [heq]
  exact accepting_law.aside orderly_aside

theorem Reachable.serving {s : GateState} (h : Reachable Request.ofService s) : Serving s :=
  serving_law.reachable .start h

end SupplyGate
