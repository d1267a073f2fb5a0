import SupplyGate.Gate.State
import SupplyGate.Proofs.Gate.Settling

/-!
# Numbered steps

Numbered steps look at nothing but the counters of ids, and only count up. So what can be said of them is
what they give, if anything: `Gives x F`. As a step of a gate they leave everything as it was but for the
ids that were taken.
-/

namespace SupplyGate

variable {α β : Type}

namespace Numbering

/-- The steps count up, and give only what has `F`. -/
def Gives (x : Numbering α) (F : α → Prop) : Prop :=
  ∀ ids, (∀ a, (x.run.run ids).1 = .ok a → F a) ∧ ∀ kind, ids.count kind ≤ (x.run.run ids).2.count kind

theorem run_bind (x : Numbering α) (f : α → Numbering β) (ids : Ids) :
    (x >>= f).run.run ids = match x.run.run ids with
      | (.ok a, ids') => (f a).run.run ids'
      | (.error e, ids') => (.error e, ids') := by
  change (ExceptT.bindCont f (x.run.run ids).1).run (x.run.run ids).2 = _
  rcases x.run.run ids with ⟨_ | _, _⟩ <;> rfl

theorem run_ofReading (r : Reading α) (ids : Ids) : (ofReading r).run.run ids = (r, ids) := by
  cases r <;> rfl

namespace Gives

variable {F F' : α → Prop} {G : β → Prop} {ids : Ids}

theorem mono {x : Numbering α} (h : Gives x F) (hF : ∀ a, F a → F' a) : Gives x F' := fun ids =>
  ⟨fun a ha => hF a ((h ids).1 a ha), (h ids).2⟩

theorem pure {a : α} (ha : F a) : Gives (pure a) F := by
  refine fun ids => ⟨fun b hb => ?_, fun _ => Nat.le_refl _⟩
  cases hb
  exact ha

theorem ofReading {r : Reading α} (h : ∀ a, r = .ok a → F a) : Gives (liftM r) F := by
  intro ids
  change (∀ a, ((Numbering.ofReading r).run.run ids).1 = .ok a → F a) ∧
    ∀ kind, ids.count kind ≤ ((Numbering.ofReading r).run.run ids).2.count kind
  rw [run_ofReading]
  exact ⟨h, fun _ => Nat.le_refl _⟩

theorem reading {r : Reading α} : Gives (liftM r) fun _ => True := ofReading fun _ _ => trivial

/-- An id that is given out is a text. -/
theorem freshText (kind : IdKind) : Gives (fresh kind) fun id => ∃ t, id = .str t := by
  refine fun ids => ⟨fun id hid => ?_, fun l => ?_⟩
  · obtain rfl := Except.ok.inj hid
    exact ⟨_, rfl⟩
  · have hcount := Ids.count_bump ids kind l
    change _ ≤ (ids.bump kind).count l
    omega

theorem fresh (kind : IdKind) : Gives (fresh kind) fun _ => True := (freshText kind).mono fun _ _ => trivial

theorem bind {x : Numbering α} {f : α → Numbering β} (hx : Gives x F) (hf : ∀ a, F a → Gives (f a) G) :
    Gives (x >>= f) G := by
  intro ids
  have h := hx ids
  rw [run_bind]
  rcases hr : x.run.run ids with ⟨e | a, ids'⟩ <;> rw [hr] at h
  · refine ⟨fun b hb => ?_, h.2⟩
    cases hb
  · have ha := hf a (h.1 a rfl) ids'
    exact ⟨ha.1, fun kind => Nat.le_trans (h.2 kind) (ha.2 kind)⟩

theorem mapM {f : α → Numbering β} {R : α → β → Prop} (hf : ∀ a, Gives (f a) (R a)) : ∀ as : List α,
    Gives (as.mapM f) (List.Forall₂ R as)
  | [] => by
    rw [List.mapM_nil]
    exact .pure .nil
  | a :: as => by
    rw [List.mapM_cons]
    refine (hf a).bind fun b hb => (mapM hf as).bind fun bs hbs => ?_
    exact .pure (.cons hb hbs)

end Gives

end Numbering

namespace Gate

theorem outcome_ofNumbering (x : Numbering α) (s : GateState) :
    outcome (ofNumbering x) s = ((x.run.run s.ids).1, { s with ids := (x.run.run s.ids).2 }) := by
  change outcome (do let s ← get; set { s with ids := (x.run.run s.ids).2 }; ofReading (x.run.run s.ids).1) s = _
  rw [outcome_bind, outcome_get]
  change outcome (ofReading _) { s with ids := (x.run.run s.ids).2 } = _
  exact outcome_ofReading _ _

/-- More ids were taken. -/
theorem Took.numbered {s t : GateState} (h : Took s t) {ids : Ids} (hids : ∀ kind, t.ids.count kind ≤ ids.count kind) :
    Took s { t with ids } where
  eq := by rw [h.eq]
  more kind := Nat.le_trans (h.more kind) (hids kind)

/-- Numbered steps take ids and do nothing else. -/
theorem yields_ofNumbering {x : Numbering α} {F : α → Prop} (h : x.Gives F) (s : GateState) :
    Yields (Took s) (ofNumbering x) F := by
  intro t ht
  rw [outcome_ofNumbering]
  exact ⟨ht.numbered (h t.ids).2, (h t.ids).1⟩

end Gate

end SupplyGate
