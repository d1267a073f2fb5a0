import SupplyGate.Proofs.Gate.Steps
import SupplyGate.Proofs.Value.Faults

/-!
# Faults of steps

What a step fails with, like what a reading fails with: `Tells P x s` says that from `s` the step fails with a
fault that has `P`. A run over a list fails at the first item whose step does (`Reaches`).
-/

namespace SupplyGate.Gate

variable {α β : Type} {P : Fault → Prop} {s : GateState}

/-- From the state the step fails, and its fault has `P`. -/
def Tells (P : Fault → Prop) (x : Gate α) (s : GateState) : Prop := ∃ f t, Fails x s f t ∧ P f

/-- What a step that fails tells is its fault. -/
theorem Fails.tells_iff {x : Gate α} {f : Fault} {t : GateState} (h : Fails x s f t) : Tells P x s ↔ P f := by
  constructor
  · rintro ⟨g, u, hg, hP⟩
    obtain ⟨hf, -⟩ := Prod.mk.inj (h.symm.trans hg)
    exact Except.error.inj hf ▸ hP
  · exact fun hP => ⟨f, t, h, hP⟩

@[simp] theorem tells_throw {f : Fault} : Tells P (throw f : Gate α) s ↔ P f := Fails.tells_iff rfl

@[simp] theorem tells_pure {a : α} : ¬ Tells P (pure a : Gate α) s := by
  rintro ⟨f, t, h, -⟩
  cases h

theorem tells_bind {x : Gate α} {g : α → Gate β} :
    Tells P (x >>= g) s ↔ Tells P x s ∨ ∃ a t, Returns x s a t ∧ Tells P (g a) t := by
  unfold Tells Fails Returns
  rw [outcome_bind]
  rcases outcome x s with ⟨f | a, t⟩
  · simp
  · constructor
    · intro h
      exact .inr ⟨a, t, rfl, h⟩
    · rintro (⟨f, u, h, -⟩ | ⟨b, u, h, hb⟩)
      · cases h
      · obtain ⟨ha, rfl⟩ := Prod.mk.inj h
        cases ha
        exact hb

/-- Taking a step for one item of a list after the other, some step fails with `P` after all those before it
have returned. -/
inductive Reaches (step : α → Gate β) (P : Fault → Prop) : List α → GateState → Prop where
  | here {a : α} {as : List α} {s : GateState} (fails : Tells P (step a) s) : Reaches step P (a :: as) s
  | later {a : α} {as : List α} {b : β} {s t : GateState} (returns : Returns (step a) s b t)
      (rest : Reaches step P as t) : Reaches step P (a :: as) s

theorem reaches_cons {step : α → Gate β} {a : α} {as : List α} :
    Reaches step P (a :: as) s ↔ Tells P (step a) s ∨ ∃ b t, Returns (step a) s b t ∧ Reaches step P as t := by
  constructor
  · rintro (h | ⟨h, hrest⟩)
    · exact .inl h
    · exact .inr ⟨_, _, h, hrest⟩
  · rintro (h | ⟨b, t, h, hrest⟩)
    · exact .here h
    · exact .later h hrest

theorem tells_mapM {step : α → Gate β} : ∀ {l : List α} {s : GateState},
    Tells P (l.mapM step) s ↔ Reaches step P l s
  | [], s => by
    rw [List.mapM_nil]
    exact iff_of_false tells_pure nofun
  | a :: l, s => by
    rw [List.mapM_cons, tells_bind, reaches_cons]
    simp only [tells_bind, tells_mapM (l := l), tells_pure, and_false, exists_false, or_false]

end SupplyGate.Gate
