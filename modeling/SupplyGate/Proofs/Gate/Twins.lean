import SupplyGate.Proofs.Gate.Readiness
import SupplyGate.Proofs.Store.Mirrored

/-!
# Gates with the same records

Two gates are twins when the stores of the one are in memory, those of the other hold documents, both have the same
records, and nothing else tells them apart but how the events that were published are written (`Twins`). Two steps
agree when from twins they end alike, with results that are related or with one fault, and leave twins behind
(`Agree`). Steps are put together from steps that agree.
-/

namespace SupplyGate

/-- An event as it is told: its name, and what it carries. -/
def Event.told (e : Event) : String × Payload := (e.name, e.payload)

/-- The value is a text. -/
abbrev Value.IsText (v : Value) : Prop := ∃ s, v = .str s

namespace Gate

/-- A gate with stores in memory and a gate with stores of documents, with the same records. -/
structure Twins (s t : GateState) : Prop where
  now : t.now = s.now
  fixed : s.now.Fixed
  ids : t.ids = s.ids
  calls : t.calls = s.calls
  events : t.events.map Event.told = s.events.map Event.told
  unlogged : t.logsEvents = false
  numbered : Numbered s
  policies : s.policies.Mirrors t.policies
  violations : s.violations.Mirrors t.violations
  evaluations : s.evaluations.Mirrors t.evaluations
  strategies : s.strategies.Mirrors t.strategies

theorem Twins.start {now : Timestamp} (hnow : now.Fixed) (ids : Ids) :
    Twins (.start .memory now ids) (.start .documents now ids) where
  now := rfl
  fixed := hnow
  ids := rfl
  calls := rfl
  events := rfl
  unlogged := rfl
  numbered := .start now ids
  policies := .empty
  violations := .empty
  evaluations := .empty
  strategies := .empty

/-- Two steps end alike: with related results or with one fault, and with twins. -/
inductive Alike {α β : Type} (R : α → β → Prop) : Reading α × GateState → Reading β × GateState → Prop where
  | returned {a : α} {b : β} {s t : GateState} (related : R a b) (twins : Twins s t) : Alike R (.ok a, s) (.ok b, t)
  | refused {f : Fault} {s t : GateState} (twins : Twins s t) : Alike R (.error f, s) (.error f, t)

/-- From twins, two steps end alike. -/
def Agree {α β : Type} (R : α → β → Prop) (x : Gate α) (y : Gate β) : Prop :=
  ∀ s t, Twins s t → Alike R (outcome x s) (outcome y t)

/-- Steps that end alike are gone on from. -/
theorem Alike.bind {α β γ δ : Type} {R : α → β → Prop} {S : γ → δ → Prop} {x : Gate α} {y : Gate β} {f : α → Gate γ}
    {g : β → Gate δ} {s t : GateState} (h : Alike R (outcome x s) (outcome y t)) (hfg : ∀ a b, R a b → Agree S (f a) (g b)) :
    Alike S (outcome (x >>= f) s) (outcome (y >>= g) t) := by
  rw [outcome_bind, outcome_bind]
  cases hx : outcome x s with | mk rx sx => ?_
  cases hy : outcome y t with | mk ry sy => ?_
  rw [hx, hy] at h
  cases h with
  | returned related twins => exact hfg _ _ related _ _ twins
  | refused twins => exact .refused twins

/-- Two readings end alike: with related results or with one fault. -/
inductive EndingsAlike {α β : Type} (R : α → β → Prop) : Reading α → Reading β → Prop where
  | returned {a : α} {b : β} (related : R a b) : EndingsAlike R (.ok a) (.ok b)
  | refused {f : Fault} : EndingsAlike R (.error f) (.error f)

theorem EndingsAlike.bind {α β γ δ : Type} {R : α → β → Prop} {S : γ → δ → Prop} {r : Reading α} {r' : Reading β}
    {f : α → Reading γ} {g : β → Reading δ} (h : EndingsAlike R r r') (hfg : ∀ a b, R a b → EndingsAlike S (f a) (g b)) :
    EndingsAlike S (r >>= f) (r' >>= g) := by
  cases h with
  | returned related => exact hfg _ _ related
  | refused => exact .refused

/-- One value, which has a property. -/
def Both {α : Type} (F : α → Prop) (a b : α) : Prop := b = a ∧ F a

namespace Agree

variable {α β γ δ : Type} {R R' : α → β → Prop} {S : γ → δ → Prop} {F : α → Prop}

theorem mono {x : Gate α} {y : Gate β} (h : Agree R x y) (hR : ∀ a b, R a b → R' a b) : Agree R' x y := by
  intro s t hst
  cases hx : outcome x s with | mk rx sx => ?_
  cases hy : outcome y t with | mk ry sy => ?_
  have h := h s t hst
  rw [hx, hy] at h
  cases h with
  | returned related twins => exact .returned (hR _ _ related) twins
  | refused twins => exact .refused twins

theorem pure {a : α} {b : β} (h : R a b) : Agree R (pure a) (pure b) := fun _ _ hst => .returned h hst

theorem throw {f : Fault} : Agree R (throw f) (throw f) := fun _ _ hst => .refused hst

theorem ofReading {r : Reading α} (h : ∀ a, r = .ok a → F a) : Agree (Both F) (ofReading r) (ofReading r) := by
  intro s t hst
  cases r with
  | ok a => exact .returned ⟨rfl, h a rfl⟩ hst
  | error f => exact .refused hst

/-- A reading, and one that gives the same changed. -/
theorem ofReading_map {r : Reading α} {f : α → β} (h : ∀ a, r = .ok a → R a (f a)) :
    Agree R (Gate.ofReading r) (Gate.ofReading (r.map f)) := by
  intro s t hst
  cases r with
  | ok a => exact .returned (h a rfl) hst
  | error f => exact .refused hst

theorem get : Agree Twins get get := fun _ _ hst => .returned hst hst

theorem bind {x : Gate α} {y : Gate β} {f : α → Gate γ} {g : β → Gate δ} (h : Agree R x y)
    (hfg : ∀ a b, R a b → Agree S (f a) (g b)) : Agree S (x >>= f) (y >>= g) :=
  fun s t hst => (h s t hst).bind hfg

theorem map {x : Gate α} {y : Gate β} {f : α → γ} {g : β → δ} (h : Agree R x y) (hfg : ∀ a b, R a b → S (f a) (g b)) :
    Agree S (f <$> x) (g <$> y) := by
  rw [map_eq_pure_bind, map_eq_pure_bind]
  exact h.bind fun a b hab => .pure (hfg a b hab)

theorem discard {x : Gate α} {y : Gate β} (h : Agree R x y) : Agree (fun _ _ => True) (discard x) (discard y) :=
  h.map fun _ _ _ => trivial

theorem tryCatch {x : Gate α} {y : Gate β} {handle : Fault → Gate α} {handle' : Fault → Gate β} (h : Agree R x y)
    (hh : ∀ f, Agree R (handle f) (handle' f)) : Agree R (tryCatch x handle) (tryCatch y handle') := by
  intro s t hst
  rw [outcome_tryCatch, outcome_tryCatch]
  cases hx : outcome x s with | mk rx sx => ?_
  cases hy : outcome y t with | mk ry sy => ?_
  have h := h s t hst
  rw [hx, hy] at h
  cases h with
  | returned related twins => exact .returned related twins
  | refused twins => exact hh _ _ _ twins

/-- Runs over two lists agree where the steps for items at one place do. -/
theorem mapM {T : α → β → Prop} {f : α → Gate γ} {g : β → Gate δ} {as : List α} {bs : List β} (hab : List.Forall₂ T as bs)
    (h : ∀ a b, T a b → Agree S (f a) (g b)) : Agree (List.Forall₂ S) (as.mapM f) (bs.mapM g) := by
  induction hab with
  | nil => exact .pure .nil
  | cons hab _ ih =>
    rw [List.mapM_cons, List.mapM_cons]
    exact (h _ _ hab).bind fun c d hcd => ih.bind fun cs ds hcds => .pure (.cons hcd hcds)

theorem mapM_both {T : α → β → Prop} {F : γ → Prop} {f : α → Gate γ} {g : β → Gate γ} {as : List α} {bs : List β}
    (hab : List.Forall₂ T as bs) (h : ∀ a b, T a b → Agree (Both F) (f a) (g b)) :
    Agree (Both fun cs => ∀ c ∈ cs, F c) (as.mapM f) (bs.mapM g) := by
  refine (Agree.mapM hab h).mono fun cs ds hcds => ?_
  obtain ⟨rfl, hcs⟩ := forall₂_graph (f := id) |>.mp hcds
  exact ⟨List.map_id cs, hcs⟩

theorem foldlM {T : α → β → Prop} {f : γ → α → Gate γ} {g : δ → β → Gate δ} {as : List α} {bs : List β}
    (hab : List.Forall₂ T as bs) (h : ∀ c d a b, S c d → T a b → Agree S (f c a) (g d b)) {c : γ} {d : δ} (hcd : S c d) :
    Agree S (as.foldlM f c) (bs.foldlM g d) := by
  induction hab generalizing c d with
  | nil => exact .pure hcd
  | cons hab _ ih =>
    rw [List.foldlM_cons, List.foldlM_cons]
    exact (h _ _ _ _ hcd hab).bind fun c' d' hcd' => ih hcd'

/-- Steps that are taken even after one that failed agree with what comes of each of them. -/
theorem attempt {x : Gate α} {y : Gate β} (h : Agree R x y) : Agree (EndingsAlike R) (attempt x) (attempt y) :=
  tryCatch (h.map fun _ _ hab => .returned hab) fun _ => .pure .refused

theorem takeAll {T : α → β → Prop} {f : α → Gate γ} {g : β → Gate δ} {as : List α} {bs : List β}
    (hab : List.Forall₂ T as bs) (h : ∀ a b, T a b → Agree S (f a) (g b)) :
    Agree (List.Forall₂ S) (takeAll f as) (takeAll g bs) := by
  refine (Agree.mapM hab fun a b ht => (h a b ht).attempt).bind fun endings endings' hends s t hst => ?_
  -- the first failure is the same
  have hfirst : EndingsAlike (List.Forall₂ S) (endings.mapM id) (endings'.mapM id) := by
    induction hends with
    | nil => exact .returned .nil
    | cons he _ ih =>
      rw [List.mapM_cons, List.mapM_cons]
      cases he with
      | refused => exact .refused
      | returned hcd => exact ih.bind fun _ _ hcds => .returned (.cons hcd hcds)
  generalize endings.mapM id = ending at hfirst
  generalize endings'.mapM id = ending' at hfirst
  cases hfirst with
  | refused => exact .refused hst
  | returned hcds => exact .returned hcds hst

end Agree

/-! ## Clock, ids and events -/

theorem agree_clock : Agree (Both Timestamp.Fixed) clock clock := fun _ _ hst => .returned ⟨hst.now, hst.fixed⟩ hst

theorem agree_fresh (kind : IdKind) : Agree (Both Value.IsText) (fresh kind) (fresh kind) := by
  intro s t hst
  have hids := hst.ids
  change Alike _ (.ok (Value.str (s.ids.next kind).1), { s with ids := s.ids.bump kind })
    (.ok (Value.str (t.ids.next kind).1), { t with ids := t.ids.bump kind })
  rw [hids]
  exact .returned ⟨rfl, _, rfl⟩ { hst with ids := rfl, numbered := hst.numbered.bump kind }

theorem agree_orFresh {F : Value → Prop} (kind : IdKind) {v : Value} (htext : ∀ s, F (.str s)) (hv : v.truthy = true → F v) :
    Agree (Both F) (orFresh kind v) (orFresh kind v) := by
  unfold orFresh
  split
  · next h => exact .pure ⟨rfl, hv h⟩
  · exact (agree_fresh kind).mono fun a b h => ⟨h.1, by obtain ⟨-, s, rfl⟩ := h; exact htext s⟩

/-- Events that are told alike are published. -/
theorem agree_publish {e e' : Event} (h : e'.told = e.told) : Agree (fun _ _ => True) (publish e) (publish e') := by
  intro s t hst
  rw [outcome_publish_unlogged e hst.numbered.unlogged, outcome_publish_unlogged e' hst.unlogged]
  refine .returned trivial { hst with events := ?_, numbered := ⟨hst.numbered.unlogged, hst.numbered.given⟩ }
  rw [List.map_append, List.map_append, hst.events, List.map_singleton, List.map_singleton, h]

theorem agree_logValues (values : List Value) : Agree (fun _ _ => True) (logValues values) (logValues values) :=
  (Agree.ofReading (F := fun _ => True) fun _ _ => trivial).mono fun _ _ _ => trivial

theorem agree_noteCall (call : CollaboratorCall) : Agree (fun _ _ => True) (noteCall call) (noteCall call) := by
  intro s t hst
  refine .returned trivial { hst with calls := ?_, numbered := ⟨hst.numbered.unlogged, hst.numbered.given⟩ }
  exact congrArg (· ++ [call]) hst.calls

/-! ## Stores -/

section Stores

variable {α : Type} [Stored α] [Mirrored α] {shelf : Shelf α}

open Mirrored

/-- A record, and the record that its document gives. -/
def Reads (a b : α) : Prop := b = asRead a ∧ Kept a

/-- A record that rows can hold, and the same record or the one that its document gives. -/
def Gives (a b : α) : Prop := Kept a ∧ (b = a ∨ b = asRead a)

theorem Reads.gives {a b : α} (h : Reads a b) : Gives a b := ⟨h.2, .inr h.1⟩

theorem Gives.same {a b : α} (h : Gives a b) : Stored.Same a b := by
  rcases h.2 with rfl | rfl
  · exact .refl _
  · exact same_asRead a

/-- Some records, and those that their documents give. -/
def ReadsAll (as bs : List α) : Prop := bs = as.map asRead ∧ ∀ a ∈ as, Kept a

theorem ReadsAll.forall₂ {as bs : List α} (h : ReadsAll as bs) : List.Forall₂ Reads as bs := forall₂_graph.mpr h

/-- Twins have the same records on a shelf, and stay twins when these are changed alike. -/
structure Twinned (shelf : Shelf α) : Prop where
  mirrored : ∀ s t, Twins s t → (shelf.read s).Mirrors (shelf.read t)
  written : ∀ s t s' t', Twins s t → s'.Mirrors t' → Twins (shelf.write s s') (shelf.write t t')

theorem twinned_policies : Twinned Shelf.policies where
  mirrored _ _ h := h.policies
  written _ _ _ _ h h' := { h with policies := h', numbered := ⟨h.numbered.unlogged, h.numbered.given⟩ }

theorem twinned_evaluations : Twinned Shelf.evaluations where
  mirrored _ _ h := h.evaluations
  written _ _ _ _ h h' := { h with evaluations := h', numbered := ⟨h.numbered.unlogged, h.numbered.given⟩ }

theorem twinned_strategies : Twinned Shelf.strategies where
  mirrored _ _ h := h.strategies
  written _ _ _ _ h h' := { h with strategies := h', numbered := ⟨h.numbered.unlogged, h.numbered.given⟩ }

section

variable (hshelf : ∀ s t, Twins s t → (shelf.read s).Mirrors (shelf.read t))
include hshelf

theorem agree_find {id : Value} (hid : id.IsText) :
    Agree (fun o o' => o' = o.map asRead ∧ ∀ a, o = some a → Kept a ∧ Stored.ident a = id) (find shelf id) (find shelf id) := by
  obtain ⟨i, rfl⟩ := hid
  intro s t hst
  obtain ⟨o, hs, ht, hkept⟩ := (hshelf s t hst).get s.now i
  rw [outcome_find, outcome_find, hst.now, hs, ht]
  exact .returned ⟨rfl, hkept⟩ hst

theorem agree_ofTenant {tenant : Value} (htenant : tenant.IsText) :
    Agree ReadsAll (ofTenant shelf tenant) (ofTenant shelf tenant) := by
  obtain ⟨i, rfl⟩ := htenant
  intro s t hst
  obtain ⟨as, hs, ht, hkept⟩ := (hshelf s t hst).ofTenant s.now i
  rw [outcome_ofTenant, outcome_ofTenant, hst.now, hs, ht]
  exact .returned ⟨rfl, hkept⟩ hst

theorem agree_all : Agree ReadsAll (all shelf) (all shelf) := by
  intro s t hst
  obtain ⟨as, hs, ht, hkept⟩ := (hshelf s t hst).all s.now
  rw [outcome_all, outcome_all, hst.now, hs, ht]
  exact .returned ⟨rfl, hkept⟩ hst

end

section

variable (hshelf : Twinned shelf)
include hshelf

theorem agree_keep {a b : α} (ha : Kept a) (hab : Stored.Same a b) : Agree (fun _ _ => True) (keep shelf a) (keep shelf b) := by
  intro s t hst
  obtain ⟨s', t', hs, ht, h⟩ := (hshelf.mirrored s t hst).put ha hab
  rw [outcome_keep, outcome_keep, hs, ht]
  exact .returned trivial (hshelf.written s t s' t' hst h)

theorem agree_add {a b : α} (ha : Kept a) (hab : Stored.Same a b) : Agree (fun _ _ => True) (add shelf a) (add shelf b) := by
  intro s t hst
  rw [outcome_add, outcome_add]
  rcases (hshelf.mirrored s t hst).add ha hab with ⟨f, hs, ht⟩ | ⟨s', t', hs, ht, h⟩
  · rw [hs, ht]
    exact .refused hst
  · rw [hs, ht]
    exact .returned trivial (hshelf.written s t s' t' hst h)

theorem agree_remove {id : Value} (hid : id.IsText) : Agree (fun _ _ => True) (remove shelf id) (remove shelf id) := by
  obtain ⟨i, rfl⟩ := hid
  intro s t hst
  obtain ⟨found, s', t', hs, ht, h⟩ := (hshelf.mirrored s t hst).delete i
  rw [outcome_remove, outcome_remove, hs, ht]
  exact .returned trivial (hshelf.written s t s' t' hst h)

end

end Stores

end Gate

end SupplyGate
