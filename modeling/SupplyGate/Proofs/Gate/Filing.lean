import SupplyGate.Proofs.Gate.Runs
import SupplyGate.Proofs.Store.Filed

/-!
# Detection and the text of a finding

Where the violations of a gate are filed by the texts of their findings, a finding that is detected
gets a violation with its own text, and violations with another text stay as they are.
-/

namespace SupplyGate.Gate

/-- The violations are in memory, filed by the texts of their findings, and with `S`. -/
def FiledWith (S : MemoryStore Violation → Prop) (s : GateState) : Prop :=
  ∃ m, s.violations = .memory m ∧ m.Filed ∧ S m

/-- A gate has a violation on record. -/
def Holds (k : Key) (w : Violation) : GateState → Prop := FiledWith fun m => m.lookup k = some w

theorem filedWith_runLaw (S : MemoryStore Violation → Prop) : RunLaw (FiledWith S) where
  recorded _ _ _ hs _ := hs
  numbered _ _ hs := hs
  published _ _ hs := hs
  called _ _ hs := hs

section Detect

variable {S : MemoryStore Violation → Prop} {p : Policy} {r : Rule} {d : Dependency}
  {o : ConditionOutcome} {c : EvaluationContext} {now : Timestamp}

/-- Detecting a finding yields what storing one of its identity and severity yields. -/
theorem yields_detect_stored {F : Violation → Prop}
    (hS : ∀ m t v found, m.Filed → S m → v.identity = .of (p, r) d → v.identity.Written → v.severity = r.severity →
      m.getOrAdd v.key v (Finding.seenAgain now v) = .ok (found, t) → S t ∧ F found.record) :
    Yields (FiledWith S) (detect p r d o c now) F := by
  have L := filedWith_runLaw S
  refine .bind (F := fun v => v.identity = .of (p, r) d ∧ v.severity = r.severity) ?_ fun v hv => ?_
  · refine .bind keeps_ofReading fun topic _ => .bind keeps_ofReading fun _ _ => ?_
    refine .bind (L.keeps_fresh _) fun id _ => .bind keeps_ofReading fun metadata _ => .pure ⟨rfl, rfl⟩
  · refine record_yields (fun _ _ => L.keeps_publish _) fun hparts => yields_findOrAdd _ fun s found t hs hg => ?_
    obtain ⟨m, hm, hfiled, hSm⟩ := hs
    rw [show Shelf.violations.read s = .memory m from hm] at hg
    obtain ⟨m', hg', rfl⟩ := Store.getOrAdd_memory.mp hg
    obtain ⟨hS', hF⟩ := hS m m' v found hfiled hSm hv.1 (.of_parts hparts) hv.2 hg'
    exact ⟨⟨m', rfl, hfiled.getOrAdd hg', hS'⟩, hF⟩

/-- A finding that is detected gets a violation with its text. -/
theorem yields_detect_key :
    Yields (FiledWith fun _ => True) (detect p r d o c now) fun v => v.key = (Identity.of (p, r) d).key :=
  yields_detect_stored fun m t v found hfiled _ hv _ _ hg => ⟨trivial, by
    rw [hfiled.getOrAdd_key hg, Violation.key_eq, hv]⟩

/-- A violation on record stays as it is where a finding has another text. -/
theorem holds_detect {k : Key} {w : Violation} (hne : w.key ≠ (Identity.of (p, r) d).key) :
    Yields (Holds k w) (detect p r d o c now) fun v => v.key = (Identity.of (p, r) d).key := by
  refine yields_detect_stored fun m t v found hfiled hw hv _ _ hg => ?_
  have hv : v.key = (Identity.of (p, r) d).key := by rw [Violation.key_eq, hv]
  refine ⟨hfiled.getOrAdd_frame hg hw ?_, ?_⟩
  · rw [hv]
    exact hne
  · rw [hfiled.getOrAdd_key hg, hv]

/-- A finding gets the violation that its text leads to. -/
theorem yields_detect_found {q : Identity} (hq : (Identity.of (p, r) d).key = q.key) {q' : Identity} :
    Yields (FiledWith fun m => ∃ k w, m.byIndex q.key = some (k, w) ∧ w.identity = q')
      (detect p r d o c now) fun v => v.identity = q' := by
  refine yields_detect_stored fun m t v found hfiled hm hv _ _ hg => ?_
  obtain ⟨k, w, hw, hwq⟩ := hm
  have hvk : v.key = q.key := by rw [Violation.key_eq, hv, hq]
  rcases MemoryStore.getOrAdd_ok hg with ⟨l, old, hr⟩ | ⟨l, ha⟩
  · have hold := hr.here
    rw [hvk, hw] at hold
    obtain ⟨rfl, rfl⟩ : k = l ∧ w = old := by simpa using hold
    obtain ⟨-, -, rfl⟩ := hfiled.refreshed hr
    obtain ⟨hindex, hempty, -⟩ := MemoryStore.byIndex_eq_some.mp hw
    have hid := (Finding.identity_seenAgain now v w).trans hwq
    refine ⟨⟨k, _, MemoryStore.byIndex_eq_some.mpr ⟨hindex, hempty, ?_⟩, hid⟩, ?_⟩
    · exact MemoryStore.lookup_store_self k _
    · rw [hr.found_eq]
      exact hid
  · have hnone := ha.absent
    rw [hvk, hw] at hnone
    cases hnone

end Detect

end SupplyGate.Gate
