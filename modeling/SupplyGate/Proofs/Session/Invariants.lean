import SupplyGate.Proofs.Gate.Filing
import SupplyGate.Proofs.Gate.Recording
import SupplyGate.Proofs.Gate.Skipping
import SupplyGate.Proofs.Session.Law

/-!
# What every run of requests keeps

Invariants of the violations and results of a service: the violations are filed by the texts of their
findings, they stand under ids that were given out, and both are in memory. No request breaks them,
whatever policies it stores.
-/

namespace SupplyGate

open Gate

/-- A service keeps its violations filed. -/
theorem filed_law : Law (FiledWith fun _ => True) (fun _ => True) (fun _ => True) where
  toRunLaw := filedWith_runLaw _
  checked _ _ := trivial
  alike _ _ _ _ := trivial
  stored _ _ := trivial
  found _ _ _ _ _ := trivial
  listed _ _ _ _ _ _ _ := trivial
  every _ _ _ _ _ _ := trivial
  added _ _ _ hs _ _ := hs
  put _ _ _ hs _ _ := hs
  deleted _ _ _ _ hs _ := hs
  triaged s id v w t hs hv htriaged ht := by
    obtain ⟨m, hm, hfiled, -⟩ := hs
    rw [hm] at hv ht
    obtain ⟨m', hm', rfl⟩ := Store.put_memory.mp ht
    refine ⟨m', rfl, hfiled.put hv ?_ ?_ hm', trivial⟩ <;> rw [htriaged]
    exact rfl
  detected p _ r _ d o c now := yields_detect_key.keeps
  strategy _ _ _ hs _ := hs
  clocked _ _ hs := hs

/-- A violation on record is put back under its id. -/
theorem Gate.Numbered.putBack {s : GateState} {id : Value} {v w : Violation} {t : Store Violation} (hs : Numbered s)
    (hv : s.violations.get s.now id = .ok (some v)) (hid : w.id = v.id) (ht : s.violations.put w = .ok t) :
    Numbered { s with violations := t } := by
  obtain ⟨hl, m, hm, hgiven⟩ := hs
  rw [hm] at hv ht
  obtain ⟨m', hm', rfl⟩ := Store.put_memory.mp ht
  obtain ⟨k, hk, rfl⟩ := MemoryStore.put_back (fun e he => (hgiven e he).key) hv hid hm'
  obtain ⟨n, hn, hvid, hkey⟩ := hgiven.lookup hk
  exact ⟨hl, _, rfl, hgiven.store ⟨n, hn, hid.trans hvid, hkey⟩⟩

/-- A service keeps its violations under ids that were given out. -/
theorem numbered_law : Law Numbered (fun _ => True) (fun _ => True) where
  toRunLaw := numbered_runLaw
  checked _ _ := trivial
  alike _ _ _ _ := trivial
  stored _ _ := trivial
  found _ _ _ _ _ := trivial
  listed _ _ _ _ _ _ _ := trivial
  every _ _ _ _ _ _ := trivial
  added _ _ _ hs _ _ := ⟨hs.unlogged, hs.given⟩
  put _ _ _ hs _ _ := ⟨hs.unlogged, hs.given⟩
  deleted _ _ _ _ hs _ := ⟨hs.unlogged, hs.given⟩
  triaged _ _ _ _ _ hs hv htriaged ht := hs.putBack hv (by rw [htriaged]) ht
  detected _ _ _ _ _ _ _ _ := numbered_detect
  strategy _ _ _ hs _ := ⟨hs.unlogged, hs.given⟩
  clocked _ _ hs := ⟨hs.unlogged, hs.given⟩

/-- A service keeps its results in memory. -/
theorem results_law : Law (fun s => ∃ results, s.evaluations = .memory results) (fun _ => True) (fun _ => True) where
  recorded s r t hs ht := by
    obtain ⟨m, hm⟩ := hs
    rw [hm] at ht
    obtain ⟨m', -, rfl⟩ := Store.put_memory.mp ht
    exact ⟨m', rfl⟩
  numbered _ _ hs := hs
  published _ _ hs := hs
  called _ _ hs := hs
  checked _ _ := trivial
  alike _ _ _ _ := trivial
  stored _ _ := trivial
  found _ _ _ _ _ := trivial
  listed _ _ _ _ _ _ _ := trivial
  every _ _ _ _ _ _ := trivial
  added _ _ _ hs _ _ := hs
  put _ _ _ hs _ _ := hs
  deleted _ _ _ _ hs _ := hs
  triaged _ _ _ _ _ hs _ _ _ := hs
  detected _ _ _ _ _ _ _ _ := keeps_detect_of (fun _ _ hs => hs) (fun _ _ hs => hs) fun _ _ hs => hs
  strategy _ _ _ hs _ := hs
  clocked _ _ hs := hs

section Reachable

variable {allowed : Request → Prop} {s : GateState}

theorem Reachable.filed (h : Reachable allowed s) : FiledWith (fun _ => True) s :=
  h.keeps (fun _ _ => ⟨.empty, rfl, .empty, trivial⟩) fun r _ =>
    filed_law.keeps_request r fun _ _ _ _ _ _ => trivial

theorem Reachable.numbered (h : Reachable allowed s) : Numbered s :=
  h.keeps Numbered.start fun r _ => numbered_law.keeps_request r fun _ _ _ _ _ _ => trivial

/-- Wherever requests lead, violations are recorded in memory. -/
theorem Reachable.recording (h : Reachable allowed s) : ∃ m, Recording m s := by
  obtain ⟨hl, m, hm, hgiven⟩ := h.numbered
  obtain ⟨m', hm', hfiled, -⟩ := h.filed
  obtain rfl : m = m' := by simpa [hm] using hm'
  refine ⟨m, hl, hm, hgiven, hfiled, ?_⟩
  exact h.keeps (fun _ _ => ⟨.empty, rfl⟩) fun r _ => results_law.keeps_request r fun _ _ _ _ _ _ => trivial

end Reachable

end SupplyGate
