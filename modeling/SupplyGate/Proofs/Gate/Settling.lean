import SupplyGate.Proofs.Gate.Steps

/-!
# Steps that are taken or refused

A request looks things up and takes ids, and any of that may fail; then it writes, and what it has written
it does not take back. So how it ends is told twice: `Settles I x R E` says that from `I` the step returns
and ends in `R`, or fails and ends in `E`. What a refused request leaves behind are the ids that it took
(`Took`).
-/

namespace SupplyGate.Gate

variable {α β : Type} {I J E : GateState → Prop} {R Q : α → GateState → Prop}

/-- From `I` the step returns and ends in `R`, or fails and ends in `E`. -/
def Settles (I : GateState → Prop) (x : Gate α) (R : α → GateState → Prop) (E : GateState → Prop) : Prop :=
  ∀ s, I s → (∀ a t, Returns x s a t → R a t) ∧ ∀ f t, Fails x s f t → E t

theorem fails_bind {x : Gate α} {f : α → Gate β} {s t : GateState} {e : Fault} :
    Fails (x >>= f) s e t ↔ Fails x s e t ∨ ∃ a u, Returns x s a u ∧ Fails (f a) u e t := by
  unfold Fails Returns
  rw [outcome_bind]
  rcases outcome x s with ⟨e' | a, u⟩
  · simp
  · constructor
    · intro h
      exact .inr ⟨a, u, rfl, h⟩
    · rintro (h | ⟨_, _, ⟨⟩, h⟩)
      · cases h
      · exact h

namespace Settles

theorem mono {x : Gate α} {E' : GateState → Prop} (h : Settles I x Q E) (hR : ∀ a t, Q a t → R a t)
    (hE : ∀ t, E t → E' t) : Settles I x R E' := fun s hs =>
  ⟨fun a t hr => hR a t ((h s hs).1 a t hr), fun f t hf => hE t ((h s hs).2 f t hf)⟩

theorem of_exists {ι : Type} {P : ι → GateState → Prop} {x : Gate α} (h : ∀ i, Settles (P i) x R E) :
    Settles (fun s => ∃ i, P i s) x R E := fun s ⟨i, hi⟩ => h i s hi

theorem of_and {F : Prop} {x : Gate α} (h : F → Settles I x R E) : Settles (fun s => I s ∧ F) x R E :=
  fun s hs => h hs.2 s hs.1

/-- Returned or failed, the step ends somewhere. -/
theorem ends {x : Gate α} {s : GateState} (h : Settles I x R E) (hs : I s) (hR : ∀ a t, R a t → J t)
    (hE : ∀ t, E t → J t) : J (outcome x s).2 := by
  rcases ho : outcome x s with ⟨f | a, t⟩
  · exact hE t ((h s hs).2 f t ho)
  · exact hR a t ((h s hs).1 a t ho)

theorem pointwise {x : Gate α} (h : ∀ s, I s → Settles (· = s) x R E) : Settles I x R E :=
  fun s hs => h s hs s rfl

theorem pure {a : α} (h : ∀ s, I s → R a s) : Settles I (pure a) R E := by
  refine fun s hs => ⟨fun _ _ hr => ?_, fun _ _ hf => ?_⟩
  · obtain ⟨rfl, rfl⟩ := returns_pure.mp hr
    exact h _ hs
  · cases hf

theorem throw {f : Fault} (h : ∀ s, I s → E s) : Settles I (throw f : Gate α) R E := by
  refine fun s hs => ⟨fun b t hr => absurd hr returns_throw, fun f t hf => ?_⟩
  cases hf
  exact h s hs

/-- A step that is taken wherever the invariant holds. -/
theorem of_outcome {x : Gate α} (h : ∀ s, I s → ∃ a t, outcome x s = (.ok a, t) ∧ R a t) : Settles I x R E := by
  intro s hs
  obtain ⟨a, t, ho, hR⟩ := h s hs
  refine ⟨fun b u hr => ?_, fun f u hf => ?_⟩
  · rw [Returns, ho] at hr
    cases hr
    exact hR
  · rw [Fails, ho] at hf
    cases hf

/-- A step that keeps the invariant it starts from. -/
theorem of_yields {F : α → Prop} {x : Gate α} (h : Yields I x F) (hE : ∀ s, I s → E s) :
    Settles I x (fun a t => I t ∧ F a) E :=
  fun _ hs => ⟨fun _ _ hr => h.returns hs hr, fun _ t hf => hE t (h.fails hs hf)⟩

theorem bind {x : Gate α} {f : α → Gate β} {R : β → GateState → Prop} (hx : Settles I x Q E)
    (hf : ∀ a, Settles (Q a) (f a) R E) : Settles I (x >>= f) R E := by
  refine fun s hs => ⟨fun b t hr => ?_, fun e t he => ?_⟩
  · obtain ⟨a, u, ha, hb⟩ := returns_bind.mp hr
    exact (hf a u ((hx s hs).1 a u ha)).1 b t hb
  · rcases fails_bind.mp he with he | ⟨a, u, ha, he⟩
    · exact (hx s hs).2 e t he
    · exact (hf a u ((hx s hs).1 a u ha)).2 e t he

/-- The first of two steps keeps the invariant, and the second starts from it, too. -/
theorem after {F : α → Prop} {x : Gate α} {f : α → Gate β} {R : β → GateState → Prop} (hx : Yields I x F)
    (hE : ∀ s, I s → E s) (hf : ∀ a, F a → Settles I (f a) R E) : Settles I (x >>= f) R E :=
  (of_yields hx hE).bind fun a => of_and (hf a)

/-- What is returned does not matter. -/
theorem returning {x : Gate α} {g : α → β} (h : Settles I x (fun _ => J) E) :
    Settles I (do let a ← x; return g a) (fun _ => J) E := h.bind fun _ => .pure fun _ ht => ht

theorem discard {x : Gate α} {R : GateState → Prop} (h : Settles I x (fun _ => R) E) :
    Settles I (discard x) (fun _ => R) E := by
  intro s hs
  unfold Returns Fails
  rw [outcome_discard]
  rcases ho : outcome x s with ⟨f | a, t⟩
  · refine ⟨fun _ _ hu => ?_, fun _ _ hf => ?_⟩
    · cases hu
    · cases hf
      exact (h s hs).2 f t ho
  · refine ⟨fun _ _ hu => ?_, fun _ _ hf => ?_⟩
    · cases hu
      exact (h s hs).1 a t ho
    · cases hf

end Settles

/-! ## Telling -/

/-- An event that need not be written can be published. -/
theorem settles_publish {e : Event} {R : Unit → GateState → Prop} (hl : ∀ s, I s → s.logsEvents = false)
    (hR : ∀ s, I s → R () { s with events := s.events ++ [e] }) : Settles I (publish e) R E :=
  .of_outcome fun s hs => ⟨(), _, outcome_publish_unlogged e (hl s hs), hR s hs⟩

/-- An event is told, and something is returned. -/
theorem settles_publish_return {a : α} {e : Event} (hl : ∀ s, I s → s.logsEvents = false)
    (hR : ∀ s, I s → R a { s with events := s.events ++ [e] }) : Settles I (do publish e; return a : Gate α) R E :=
  (settles_publish (R := fun _ t => R a t) hl hR).bind fun _ => .pure fun _ ht => ht

/-- How a step ends that writes and then tells of it: refused as the writing is; or, once it has written, because
the values that it tells of cannot be; or with events beside what was written. -/
inductive Concluded {α : Type} : Reading (List Value) × GateState → Reading α × GateState → Prop where
  | refused {f : Fault} {t : GateState} : Concluded (.error f, t) (.error f, t)
  | untold {values : List Value} {f : Fault} {t : GateState} (unwritable : ¬ Writable values) :
      Concluded (.ok values, t) (.error f, t)
  | told {values : List Value} {a : α} {t : GateState} (writable : Writable values) (events : List Event) :
      Concluded (.ok values, t) (.ok a, { t with events := t.events ++ events })

/-- The written state has come about however the step ends, perhaps with events. -/
theorem Concluded.ends {w : Reading (List Value) × GateState} {o : Reading α × GateState} {P : GateState → Prop}
    (h : Concluded w o) (hP : ∀ s events, P s → P { s with events := events }) (hw : P w.2) : P o.2 := by
  cases h with
  | refused => exact hw
  | untold => exact hw
  | told _ events => exact hP _ _ hw

/-- A step writes as another one does, and then tells of the values that it gives. -/
def TellsOf (written : Gate (List Value)) (x : Gate α) : Prop :=
  ∀ s, s.logsEvents = false → Concluded (outcome written s) (outcome x s)

theorem writable_nil : Writable [] := nofun

namespace TellsOf

variable {γ : Type} {written : Gate (List Value)} {x : Gate α} {values : List Value}

/-- Nothing is told of a step whose writing is not told of apart. -/
theorem quiet {x : Gate Unit} : TellsOf (do x; return []) x := by
  intro s _
  rw [outcome_bind]
  rcases outcome x s with ⟨f | ⟨⟩, t⟩
  · exact .refused
  · simpa using Concluded.told (a := ()) (t := t) writable_nil []

theorem pure {a : α} : TellsOf (pure []) (pure a) := by
  intro s _
  simpa using Concluded.told (a := a) (t := s) writable_nil []

theorem throw {f : Fault} : TellsOf (throw f) (throw f : Gate α) := fun _ _ => .refused

/-- Values are told of in the program's log, and then by an event. -/
theorem log {e : Event} : TellsOf (Pure.pure values) (do logValues values; publish e) := by
  intro s hs
  rw [outcome_pure, outcome_bind, logValues, outcome_ofReading]
  by_cases hw : Writable values
  · rw [show Value.checkAll values = .ok () from Value.checkAll_eq_ok.mpr hw]
    dsimp only
    rw [outcome_publish_unlogged e hs]
    exact .told hw [e]
  · rw [Value.checkAll, if_neg (by rw [List.all_eq_true]; exact hw)]
    exact .untold hw

theorem map {g : α → β} (h : TellsOf written x) : TellsOf written (do let a ← x; return g a) := by
  intro s hs
  have hends := h s hs
  rw [outcome_bind]
  generalize outcome written s = w at hends
  generalize outcome x s = o at hends
  cases hends with
  | refused => exact .refused
  | untold hw => exact .untold hw
  | told hw events => exact .told hw events

theorem log_return {e : Event} {a : α} : TellsOf (Pure.pure values) (do logValues values; publish e; return a) := by
  have hlog := (log : TellsOf (Pure.pure values) (do logValues values; publish e)).map (g := fun _ => a)
  rwa [bind_assoc] at hlog

theorem bind {p : Gate γ} {w : γ → Gate (List Value)} {f : γ → Gate α} (hp : Keeps (fun s => s.logsEvents = false) p)
    (h : ∀ c, TellsOf (w c) (f c)) : TellsOf (p >>= w) (p >>= f) := by
  intro s hs
  rw [outcome_bind, outcome_bind]
  have hkept := (hp s hs).1
  rcases ho : outcome p s with ⟨e | c, t⟩
  · exact .refused
  · rw [ho] at hkept
    exact h c t hkept

theorem publish {e : α → Event} {g : α → β} (h : TellsOf written x) (hx : Keeps (fun s => s.logsEvents = false) x) :
    TellsOf written (do let a ← x; publish (e a); return g a) := by
  intro s hs
  rw [outcome_bind]
  have hends := h s hs
  have hkept := (hx s hs).1
  generalize outcome written s = w at hends
  generalize outcome x s = o at hends hkept
  cases hends with
  | refused => exact .refused
  | untold hw => exact .untold hw
  | told hw events =>
    dsimp only
    rw [outcome_bind_ok (outcome_publish_unlogged _ hkept), List.append_assoc]
    exact .told hw _

theorem discard (h : TellsOf written x) : TellsOf written (discard x) := h.map

end TellsOf

/-! ## Taking ids -/

/-- The second state differs from the first in the ids that were taken. -/
structure Took (s t : GateState) : Prop where
  eq : t = { s with ids := t.ids }
  more : ∀ kind, s.ids.count kind ≤ t.ids.count kind

theorem Took.refl (s : GateState) : Took s s := ⟨rfl, fun _ => Nat.le_refl _⟩

variable {s t : GateState}

theorem Took.bump (h : Took s t) (kind : IdKind) : Took s { t with ids := t.ids.bump kind } where
  eq := by rw [h.eq]
  more l := by
    have hcount := Ids.count_bump t.ids kind l
    have hmore := h.more l
    change _ ≤ (t.ids.bump kind).count l
    omega

end SupplyGate.Gate
