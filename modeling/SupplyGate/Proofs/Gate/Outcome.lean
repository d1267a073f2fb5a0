import SupplyGate.Gate.State
import SupplyGate.Proofs.Value.Reading

/-!
# Outcomes of steps

`outcome` is what a step makes of a state: its result or its fault, and the state that it leaves
behind in either case. Three readings of it carry the proofs about gates:

* `Returns x s a s'`: from `s`, the step returns `a` and leaves `s'`; composite steps are taken
  apart by the `returns_*` equivalences;
* `Yields I x F`: the step keeps the invariant `I`, whether it returns or fails, and what it returns
  has `F`;
* `Succeeds x s`: from `s`, the step returns something.
-/

namespace SupplyGate.Gate

variable {α β : Type}

/-- Result or fault of a step, and the state that it leaves behind. -/
def outcome (x : Gate α) (s : GateState) : Reading α × GateState := x.run.run s

/-- From the state `s` the step returns `a` and leaves `s'`. -/
def Returns (x : Gate α) (s : GateState) (a : α) (s' : GateState) : Prop := outcome x s = (.ok a, s')

/-- From the state `s` the step fails and leaves `s'`. -/
def Fails (x : Gate α) (s : GateState) (f : Fault) (s' : GateState) : Prop :=
  outcome x s = (.error f, s')

/-! ## Outcomes of the basic steps -/

@[simp] theorem outcome_pure (a : α) (s : GateState) : outcome (pure a) s = (.ok a, s) := rfl

@[simp] theorem outcome_throw (f : Fault) (s : GateState) :
    outcome (throw f : Gate α) s = (.error f, s) := rfl

@[simp] theorem outcome_get (s : GateState) : outcome (get : Gate GateState) s = (.ok s, s) := rfl

@[simp] theorem outcome_modify (f : GateState → GateState) (s : GateState) :
    outcome (modify f : Gate PUnit) s = (.ok ⟨⟩, f s) := rfl

@[simp] theorem outcome_ofReading (r : Reading α) (s : GateState) :
    outcome (ofReading r) s = (r, s) := by
  cases r <;> rfl

@[simp] theorem liftM_self (x : Gate α) : (liftM x : Gate α) = x := rfl

@[simp] theorem liftM_eq_ofReading (r : Reading α) : (liftM r : Gate α) = ofReading r := rfl

theorem outcome_bind (x : Gate α) (f : α → Gate β) (s : GateState) :
    outcome (x >>= f) s = match outcome x s with
      | (.ok a, s') => outcome (f a) s'
      | (.error e, s') => (.error e, s') := by
  unfold outcome ExceptT.run StateT.run
  simp only [bind, ExceptT.bind, ExceptT.mk, StateT.bind]
  rcases x s with ⟨_ | _, _⟩ <;> rfl

theorem outcome_bind_ok {x : Gate α} {f : α → Gate β} {a : α} {s s' : GateState} (h : outcome x s = (.ok a, s')) :
    outcome (x >>= f) s = outcome (f a) s' := by
  rw [outcome_bind, h]

theorem outcome_bind_error {x : Gate α} {f : α → Gate β} {e : Fault} {s s' : GateState}
    (h : outcome x s = (.error e, s')) : outcome (x >>= f) s = (.error e, s') := by
  rw [outcome_bind, h]

theorem outcome_tryCatch (x : Gate α) (h : Fault → Gate α) (s : GateState) :
    outcome (tryCatch x h) s = match outcome x s with
      | (.ok a, s') => (.ok a, s')
      | (.error e, s') => outcome (h e) s' := by
  unfold outcome ExceptT.run StateT.run
  simp only [tryCatch, tryCatchThe, MonadExceptOf.tryCatch, ExceptT.tryCatch, ExceptT.mk, bind, StateT.bind]
  rcases x s with ⟨_ | _, _⟩ <;> rfl

theorem outcome_map (g : α → β) (x : Gate α) (s : GateState) :
    outcome (g <$> x) s = ((outcome x s).1.map g, (outcome x s).2) := by
  rw [map_eq_pure_bind, outcome_bind]
  rcases outcome x s with ⟨_ | _, _⟩ <;> rfl

theorem outcome_discard (x : Gate α) (s : GateState) :
    outcome (discard x) s = ((outcome x s).1.map fun _ => ⟨⟩, (outcome x s).2) :=
  outcome_map (fun _ => PUnit.unit) x s

theorem outcome_attempt (x : Gate α) (s : GateState) :
    outcome (attempt x) s = (.ok (outcome x s).1, (outcome x s).2) := by
  unfold attempt
  rw [outcome_tryCatch, outcome_map]
  rcases outcome x s with ⟨_ | _, _⟩ <;> rfl

theorem outcome_mapM_attempt (f : α → Gate β) : ∀ (as : List α) (s : GateState),
    ∃ rs t, outcome (as.mapM fun a => attempt (f a)) s = (.ok rs, t)
  | [], s => ⟨[], s, rfl⟩
  | a :: as, s => by
    obtain ⟨rs, t, h⟩ := outcome_mapM_attempt f as (outcome (f a) s).2
    refine ⟨(outcome (f a) s).1 :: rs, t, ?_⟩
    rw [List.mapM_cons, outcome_bind_ok (outcome_attempt (f a) s), outcome_bind_ok h]
    rfl

@[simp] theorem outcome_takeAll_nil (f : α → Gate β) (s : GateState) : outcome (takeAll f []) s = (.ok [], s) := rfl

/-- Of steps that are all taken the first is taken, and then the others from the state that it leaves, also where it
fails. -/
theorem outcome_takeAll_cons (f : α → Gate β) (a : α) (as : List α) (s : GateState) :
    outcome (takeAll f (a :: as)) s =
      let first := outcome (f a) s
      let rest := outcome (takeAll f as) first.2
      (first.1 >>= fun b => rest.1 >>= fun bs => .ok (b :: bs), rest.2) := by
  obtain ⟨rs, t, h⟩ := outcome_mapM_attempt f as (outcome (f a) s).2
  have hrest : outcome (takeAll f as) (outcome (f a) s).2 = (rs.mapM id, t) := by
    unfold takeAll
    rw [outcome_bind_ok h, outcome_ofReading]
  dsimp only
  rw [hrest]
  unfold takeAll
  rw [List.mapM_cons, bind_assoc, outcome_bind_ok (outcome_attempt (f a) s), bind_assoc, outcome_bind_ok h, pure_bind,
    outcome_ofReading, List.mapM_cons]
  rfl

/-! ## Steps that return -/

section Returns

variable {s s' : GateState}

@[simp] theorem returns_pure {a b : α} : Returns (pure a) s b s' ↔ b = a ∧ s' = s := by
  simp [Returns, eq_comm]

@[simp] theorem returns_throw {f : Fault} {a : α} : ¬ Returns (throw f) s a s' := by simp [Returns]

@[simp] theorem returns_get {t : GateState} : Returns get s t s' ↔ t = s ∧ s' = s := by
  simp [Returns, eq_comm]

@[simp] theorem returns_ofReading {r : Reading α} {a : α} :
    Returns (ofReading r) s a s' ↔ r = .ok a ∧ s' = s := by
  simp [Returns, eq_comm]

theorem returns_of_ok {x : Gate α} {a : α} (h : (outcome x s).1 = .ok a) : Returns x s a (outcome x s).2 :=
  Prod.ext h rfl

/-- All of some values can be written. -/
def Writable (values : List Value) : Prop := ∀ v ∈ values, v.isWritable = true

theorem returns_logValues {values : List Value} {u : Unit} :
    Returns (logValues values) s u s' ↔ Writable values ∧ s' = s := by
  rw [logValues, returns_ofReading, Value.checkAll_eq_ok, Writable]

theorem returns_bind {x : Gate α} {f : α → Gate β} {b : β} :
    Returns (x >>= f) s b s' ↔ ∃ a t, Returns x s a t ∧ Returns (f a) t b s' := by
  unfold Returns
  rw [outcome_bind]
  rcases outcome x s with ⟨f | a, t⟩
  · simp
  · constructor
    · intro h
      exact ⟨a, t, rfl, h⟩
    · rintro ⟨_, _, ⟨⟩, h⟩
      exact h

theorem returns_tryCatch {x : Gate α} {h : Fault → Gate α} {a : α} :
    Returns (tryCatch x h) s a s' ↔
      Returns x s a s' ∨ ∃ f t, Fails x s f t ∧ Returns (h f) t a s' := by
  unfold Returns Fails
  rw [outcome_tryCatch]
  rcases outcome x s with ⟨f | b, t⟩
  · constructor
    · intro hr
      exact .inr ⟨f, t, rfl, hr⟩
    · rintro (hr | ⟨_, _, ⟨⟩, hr⟩)
      · cases hr
      · exact hr
  · simp

@[simp] theorem returns_mapM_nil {f : α → Gate β} {bs : List β} :
    Returns (([] : List α).mapM f) s bs s' ↔ bs = [] ∧ s' = s := by
  simp

theorem returns_mapM_cons {f : α → Gate β} {a : α} {as : List α} {bs : List β} :
    Returns ((a :: as).mapM f) s bs s' ↔
      ∃ b t cs, Returns (f a) s b t ∧ Returns (as.mapM f) t cs s' ∧ bs = b :: cs := by
  simp only [List.mapM_cons, returns_bind, returns_pure]
  constructor
  · rintro ⟨b, t, hb, cs, _, hcs, rfl, rfl⟩
    exact ⟨b, t, cs, hb, hcs, rfl⟩
  · rintro ⟨b, t, cs, hb, hcs, rfl⟩
    exact ⟨b, t, hb, cs, s', hcs, rfl, rfl⟩

/-- Steps that are all taken, whether or not one fails, return what they do if none does. -/
theorem returns_takeAll {f : α → Gate β} {as : List α} {bs : List β} :
    Returns (takeAll f as) s bs s' ↔ Returns (as.mapM f) s bs s' := by
  induction as generalizing s bs with
  | nil => simp [Returns, eq_comm]
  | cons a as ih =>
    rw [returns_mapM_cons, Returns, outcome_takeAll_cons]
    dsimp only
    constructor
    · intro h
      obtain ⟨hread, hstate⟩ := Prod.mk.inj h
      obtain ⟨b, hb, hread⟩ := Reading.bind_eq_ok.mp hread
      obtain ⟨rest, hrest, heq⟩ := Reading.bind_eq_ok.mp hread
      exact ⟨b, _, rest, Prod.ext hb rfl, ih.mp (Prod.ext hrest hstate), (Except.ok.inj heq).symm⟩
    · rintro ⟨b, t, rest, hb, hrest, rfl⟩
      rw [show outcome (f a) s = _ from hb]
      dsimp only
      rw [show outcome (takeAll f as) t = _ from ih.mpr hrest]
      rfl

end Returns

/-! ## Steps that keep an invariant -/

/-- The step keeps `I`, whether it returns or fails, and what it returns has `F`. -/
def Yields (I : GateState → Prop) (x : Gate α) (F : α → Prop) : Prop :=
  ∀ s, I s → I (outcome x s).2 ∧ ∀ a, (outcome x s).1 = .ok a → F a

/-- The step keeps `I`, whether it returns or fails. -/
abbrev Keeps (I : GateState → Prop) (x : Gate α) : Prop := Yields I x fun _ => True

namespace Yields

variable {I : GateState → Prop} {F : α → Prop} {G : β → Prop}

theorem returns {x : Gate α} {s s' : GateState} {a : α} (h : Yields I x F) (hs : I s)
    (hr : Returns x s a s') : I s' ∧ F a := by
  have hx := h s hs
  rw [hr] at hx
  exact ⟨hx.1, hx.2 a rfl⟩

theorem fails {x : Gate α} {s s' : GateState} {f : Fault} (h : Yields I x F) (hs : I s)
    (hf : Fails x s f s') : I s' := by
  have hx := h s hs
  rw [hf] at hx
  exact hx.1

theorem mono {x : Gate α} {F' : α → Prop} (h : Yields I x F) (hF : ∀ a, F a → F' a) :
    Yields I x F' :=
  fun s hs => ⟨(h s hs).1, fun a ha => hF a ((h s hs).2 a ha)⟩

theorem keeps {x : Gate α} (h : Yields I x F) : Keeps I x := h.mono fun _ _ => trivial

theorem pure {a : α} (ha : F a) : Yields I (pure a) F := by
  intro s hs
  refine ⟨hs, fun b hb => ?_⟩
  cases hb
  exact ha

theorem throw {f : Fault} : Yields I (throw f : Gate α) F := by
  intro s hs
  exact ⟨hs, fun b hb => nomatch hb⟩

theorem ofReading {r : Reading α} (h : ∀ a, r = .ok a → F a) : Yields I (ofReading r) F := by
  intro s hs
  rw [outcome_ofReading]
  exact ⟨hs, h⟩

theorem get : Yields I (get : Gate GateState) I := by
  intro s hs
  refine ⟨hs, fun t ht => ?_⟩
  cases ht
  exact hs

theorem modify {f : GateState → GateState} (h : ∀ s, I s → I (f s)) :
    Keeps I (modify f : Gate PUnit) :=
  fun s hs => ⟨h s hs, fun _ _ => trivial⟩

theorem bind {x : Gate α} {f : α → Gate β} (h : Yields I x F) (hf : ∀ a, F a → Yields I (f a) G) :
    Yields I (x >>= f) G := by
  intro s hs
  have hx := h s hs
  rw [outcome_bind]
  rcases ho : outcome x s with ⟨e | a, t⟩ <;> rw [ho] at hx
  · exact ⟨hx.1, fun b hb => nomatch hb⟩
  · exact hf a (hx.2 a rfl) t hx.1

theorem map {x : Gate α} {g : α → β} (h : Yields I x F) (hg : ∀ a, F a → G (g a)) :
    Yields I (g <$> x) G := by
  rw [map_eq_pure_bind]
  exact h.bind fun a ha => .pure (hg a ha)

/-- A handler is only asked about faults with which the step failed. -/
theorem tryCatch_fails {x : Gate α} {handle : Fault → Gate α} (h : Yields I x F)
    (hh : ∀ f s t, I s → Fails x s f t → Yields I (handle f) F) : Yields I (tryCatch x handle) F := by
  intro s hs
  have hx := h s hs
  rw [outcome_tryCatch]
  rcases ho : outcome x s with ⟨e | a, t⟩ <;> rw [ho] at hx
  · exact hh e s t hs ho t hx.1
  · exact hx

theorem tryCatch {x : Gate α} {handle : Fault → Gate α} (h : Yields I x F)
    (hh : ∀ f, Yields I (handle f) F) : Yields I (tryCatch x handle) F :=
  h.tryCatch_fails fun f _ _ _ _ => hh f

/-- What each item yields, a run over the list yields item by item. -/
theorem mapM {f : α → Gate β} {R : α → β → Prop} :
    ∀ {as : List α}, (∀ a ∈ as, Yields I (f a) (R a)) → Yields I (as.mapM f) (List.Forall₂ R as)
  | [], _ => by
    rw [List.mapM_nil]
    exact .pure .nil
  | a :: as, h => by
    rw [List.mapM_cons]
    refine (h a List.mem_cons_self).bind fun b hb => ?_
    refine (mapM fun a' ha' => h a' (List.mem_cons_of_mem _ ha')).bind fun bs hbs => ?_
    exact .pure (.cons hb hbs)

/-- Whatever a run over a list gives, one of the items has yielded. -/
theorem mapM_mem {f : α → Gate β} {R : α → β → Prop} {as : List α}
    (h : ∀ a ∈ as, Yields I (f a) (R a)) :
    Yields I (as.mapM f) fun bs => ∀ b ∈ bs, ∃ a ∈ as, R a b :=
  (mapM h).mono fun _ hbs => exists_of_forall₂ hbs

theorem attempt {x : Gate α} (h : Yields I x F) : Yields I (attempt x) fun r => ∀ a, r = .ok a → F a := by
  intro s hs
  rw [outcome_attempt]
  refine ⟨(h s hs).1, fun r hr a ha => (h s hs).2 a ?_⟩
  rw [← ha, Except.ok.inj hr]

/-- Steps that are all taken yield item by item, as a run over the list does. -/
theorem takeAll {f : α → Gate β} {R : α → β → Prop} {as : List α} (h : ∀ a ∈ as, Yields I (f a) (R a)) :
    Yields I (takeAll f as) (List.Forall₂ R as) := by
  intro s hs
  have hkeeps : Yields I (Gate.takeAll f as) fun _ => True :=
    Yields.bind (mapM fun a ha => (h a ha).attempt) fun _ _ => .ofReading fun _ _ => trivial
  refine ⟨(hkeeps s hs).1, fun bs hbs => ?_⟩
  have hreturns : Returns (as.mapM f) s bs (outcome (Gate.takeAll f as) s).2 :=
    returns_takeAll.mp (Prod.ext hbs rfl)
  exact ((mapM h).returns hs hreturns).2

theorem takeAll_mem {f : α → Gate β} {R : α → β → Prop} {as : List α} (h : ∀ a ∈ as, Yields I (f a) (R a)) :
    Yields I (Gate.takeAll f as) fun bs => ∀ b ∈ bs, ∃ a ∈ as, R a b :=
  (takeAll h).mono fun _ hbs => exists_of_forall₂ hbs

theorem foldlM_from {f : β → α → Gate β} {T : List α → β → Prop} :
    ∀ {as done : List α} {b : β}, T done b →
      (∀ before a b, a ∈ as → T before b → Yields I (f b a) (T (before ++ [a]))) →
      Yields I (as.foldlM f b) (T (done ++ as))
  | [], done, b, hb, _ => by
    rw [List.foldlM_nil, List.append_nil]
    exact .pure hb
  | a :: as, done, b, hb, h => by
    rw [List.foldlM_cons]
    refine (h done a b List.mem_cons_self hb).bind fun c hc => ?_
    have hrest : Yields I (as.foldlM f c) (T (done ++ [a] ++ as)) :=
      foldlM_from hc fun before a' b' ha' => h before a' b' (List.mem_cons_of_mem _ ha')
    rwa [List.append_assoc, List.singleton_append] at hrest

/-- A fold carries to the whole list what each of its steps carries from the items before it to the
items up to it. -/
theorem foldlM {f : β → α → Gate β} {T : List α → β → Prop} {as : List α} {b : β} (hb : T [] b)
    (h : ∀ before a b, a ∈ as → T before b → Yields I (f b a) (T (before ++ [a]))) :
    Yields I (as.foldlM f b) (T as) :=
  foldlM_from hb h

end Yields

/-! ### Keeping alone -/

section Keeps

variable {I : GateState → Prop}

theorem Keeps.bind {x : Gate α} {f : α → Gate β} (h : Keeps I x) (hf : ∀ a, Keeps I (f a)) :
    Keeps I (x >>= f) :=
  Yields.bind h fun a _ => hf a

theorem keeps_pure {a : α} : Keeps I (pure a : Gate α) := .pure trivial

theorem keeps_throw {f : Fault} : Keeps I (throw f : Gate α) := .throw

theorem keeps_ofReading {r : Reading α} : Keeps I (ofReading r) := .ofReading fun _ _ => trivial

theorem keeps_get : Keeps I (get : Gate GateState) := Yields.get.keeps

theorem Keeps.tryCatch {x : Gate α} {handle : Fault → Gate α} (h : Keeps I x)
    (hh : ∀ f, Keeps I (handle f)) : Keeps I (tryCatch x handle) :=
  Yields.tryCatch h hh

theorem Keeps.mapM {f : α → Gate β} {as : List α} (h : ∀ a ∈ as, Keeps I (f a)) : Keeps I (as.mapM f) :=
  (Yields.mapM h).keeps

theorem Keeps.takeAll {f : α → Gate β} {as : List α} (h : ∀ a ∈ as, Keeps I (f a)) : Keeps I (takeAll f as) :=
  (Yields.takeAll h).keeps

theorem keeps_true (x : Gate α) : Keeps (fun _ => True) x := fun _ _ => ⟨trivial, fun _ _ => trivial⟩

end Keeps

/-! ## Steps that succeed -/

/-- From the state `s` the step returns. -/
def Succeeds (x : Gate α) (s : GateState) : Prop := ∃ a s', Returns x s a s'

section Succeeds

variable {s : GateState} {I : GateState → Prop} {F : α → Prop}

theorem succeeds_pure {a : α} : Succeeds (pure a) s := ⟨a, s, rfl⟩

theorem fails_of_not_succeeds {x : Gate α} (h : ¬ Succeeds x s) : ∃ f s', Fails x s f s' := by
  rcases hx : outcome x s with ⟨f | a, t⟩
  · exact ⟨f, t, hx⟩
  · exact absurd ⟨a, t, hx⟩ h

theorem succeeds_get_bind {f : GateState → Gate α} : Succeeds (get >>= f) s ↔ Succeeds (f s) s := by
  unfold Succeeds Returns
  simp only [outcome_bind, outcome_get]

theorem succeeds_bind_pure {x : Gate α} {g : α → β} : Succeeds (x >>= fun a => pure (g a)) s ↔ Succeeds x s := by
  constructor
  · rintro ⟨b, s', h⟩
    obtain ⟨a, t, ha, -⟩ := returns_bind.mp h
    exact ⟨a, t, ha⟩
  · rintro ⟨a, s', ha⟩
    exact ⟨g a, s', returns_bind.mpr ⟨a, s', ha, rfl⟩⟩

/-- Where the first of two steps yields `F`, and with that the second succeeds just when `C` holds,
both succeed just when the first does and `C` holds. -/
theorem succeeds_bind_iff {x : Gate α} {f : α → Gate β} {C : Prop} (hx : Yields I x F) (hs : I s)
    (hf : ∀ a t, I t → F a → (Succeeds (f a) t ↔ C)) :
    Succeeds (x >>= f) s ↔ Succeeds x s ∧ C := by
  constructor
  · rintro ⟨b, s', h⟩
    obtain ⟨a, t, ha, hb⟩ := returns_bind.mp h
    have ⟨ht, hFa⟩ := hx.returns hs ha
    exact ⟨⟨a, t, ha⟩, (hf a t ht hFa).mp ⟨b, s', hb⟩⟩
  · rintro ⟨⟨a, t, ha⟩, hC⟩
    have ⟨ht, hFa⟩ := hx.returns hs ha
    obtain ⟨b, s', hb⟩ := (hf a t ht hFa).mpr hC
    exact ⟨b, s', returns_bind.mpr ⟨a, t, ha, hb⟩⟩

/-- A reading and a step after it succeed just when the reading gives something from which the step
succeeds. -/
theorem succeeds_ofReading_bind {r : Reading α} {f : α → Gate β} :
    Succeeds (ofReading r >>= f) s ↔ ∃ a, r = .ok a ∧ Succeeds (f a) s := by
  cases r with
  | error e =>
    simp only [reduceCtorEq, false_and, exists_false, iff_false]
    rintro ⟨b, s', h⟩
    obtain ⟨a, t, ha, -⟩ := returns_bind.mp h
    cases (returns_ofReading.mp ha).1
  | ok a =>
    constructor
    · rintro ⟨b, s', h⟩
      obtain ⟨a', t, ha, hb⟩ := returns_bind.mp h
      obtain ⟨ha', rfl⟩ := returns_ofReading.mp ha
      exact ⟨a', ha', b, s', hb⟩
    · rintro ⟨a', ha', b, s', hb⟩
      exact ⟨b, s', returns_bind.mpr ⟨a', s, returns_ofReading.mpr ⟨ha', rfl⟩, hb⟩⟩

/-- A fold whose steps keep `I` succeeds just when each item meets the condition under which its
step does. -/
theorem succeeds_foldlM_iff {f : β → α → Gate β} {C : α → Prop} :
    ∀ {as : List α} {b : β} {s : GateState}, I s → (∀ a ∈ as, ∀ b, Keeps I (f b a)) →
      (∀ a ∈ as, ∀ b t, I t → (Succeeds (f b a) t ↔ C a)) →
      (Succeeds (as.foldlM f b) s ↔ ∀ a ∈ as, C a)
  | [], b, s, _, _, _ => by simp [succeeds_pure]
  | a :: as, b, s, hs, hk, hC => by
    rw [List.foldlM_cons, List.forall_mem_cons]
    rw [succeeds_bind_iff (hk a List.mem_cons_self b) hs (C := ∀ a ∈ as, C a)]
    · rw [hC a List.mem_cons_self b s hs]
    · intro c t ht _
      exact succeeds_foldlM_iff ht (fun a' ha' => hk a' (List.mem_cons_of_mem _ ha'))
        fun a' ha' => hC a' (List.mem_cons_of_mem _ ha')

/-- Where the first of two steps yields `F`, and with that the second succeeds, both succeed if the
first does. -/
theorem succeeds_bind {x : Gate α} {f : α → Gate β} (hx : Yields I x F) (hs : I s) (h : Succeeds x s)
    (hf : ∀ a t, I t → F a → Succeeds (f a) t) : Succeeds (x >>= f) s :=
  (succeeds_bind_iff (C := True) hx hs fun a t ht ha => iff_true_intro (hf a t ht ha)).mpr ⟨h, trivial⟩

theorem Succeeds.tryCatch {x : Gate α} {handle : Fault → Gate α} (h : Succeeds x s) :
    Succeeds (tryCatch x handle) s := by
  obtain ⟨a, s', h⟩ := h
  exact ⟨a, s', returns_tryCatch.mpr (.inl h)⟩

theorem succeeds_tryCatch {x : Gate α} {handle : Fault → Gate α}
    (hh : ∀ f t, Fails x s f t → Succeeds (handle f) t) : Succeeds (tryCatch x handle) s := by
  by_cases h : Succeeds x s
  · exact h.tryCatch
  · obtain ⟨f, t, hf⟩ := fails_of_not_succeeds h
    obtain ⟨a, s', h⟩ := hh f t hf
    exact ⟨a, s', returns_tryCatch.mpr (.inr ⟨f, t, hf, h⟩)⟩

/-- A run over a list succeeds where each of its steps keeps `I` and succeeds with it. -/
theorem succeeds_mapM {f : α → Gate β} : ∀ {as : List α} {s : GateState}, I s →
    (∀ a ∈ as, Keeps I (f a)) → (∀ a ∈ as, ∀ t, I t → Succeeds (f a) t) → Succeeds (as.mapM f) s
  | [], _, _, _, _ => by
    rw [List.mapM_nil]
    exact succeeds_pure
  | a :: as, s, hs, hk, h => by
    rw [List.mapM_cons]
    refine succeeds_bind (hk a List.mem_cons_self) hs (h a List.mem_cons_self s hs) fun b t ht _ => ?_
    rw [succeeds_bind_pure]
    exact succeeds_mapM ht (fun a' ha' => hk a' (List.mem_cons_of_mem _ ha'))
      fun a' ha' => h a' (List.mem_cons_of_mem _ ha')

theorem succeeds_takeAll {f : α → Gate β} {as : List α} : Succeeds (takeAll f as) s ↔ Succeeds (as.mapM f) s := by
  unfold Succeeds
  simp only [returns_takeAll]

end Succeeds

end SupplyGate.Gate
