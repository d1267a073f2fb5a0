import SupplyGate.Proofs.Gate.Outcome

/-!
# What the basic steps of a gate do

One equation for each step on clock, ids, events and stores. Everything else about these steps is
read off the equations.
-/

namespace SupplyGate

/-- The name in the event that tells of a dependency that could not be evaluated. -/
def Event.failedName : Event → Option Value
  | .dependencyFailed _ _ name _ => some name
  | _ => none

/-- A step in the life of a violation, and who took it. -/
structure StatusChange where
  before : ViolationStatus
  after : ViolationStatus
  changedBy : Value

/-- The step that an event tells of, with the id of the violation. -/
def Event.change : Event → Option (Value × StatusChange)
  | .statusChanged _ id before after changedBy => some (id, ⟨before, after, changedBy⟩)
  | _ => none

/-- The id of the run that begins or ends with an event. -/
def Event.framedRun : Event → Option Value
  | .evaluationStarted id _ _ | .evaluationFailed id _ _ | .evaluationCompleted id _ _ _ _ => some id
  | _ => none

/-- The event tells neither of a failure, nor of a step in the life of a violation, nor of a run. -/
structure Event.Incidental (e : Event) : Prop where
  failedName : e.failedName = none
  change : e.change = none
  framedRun : e.framedRun = none

theorem Event.name_eq_failure (e : Event) :
    (e.name == "dependencyEvaluationError") = e.failedName.isSome := by
  cases e <;> simp [name, failedName]

namespace Gate

variable {α : Type} {s s' : GateState}

/-! ## Clock, ids and events -/

@[simp] theorem outcome_clock (s : GateState) : outcome clock s = (.ok s.now, s) := rfl

@[simp] theorem returns_clock {t : Timestamp} : Returns clock s t s' ↔ t = s.now ∧ s' = s := by
  simp [Returns, eq_comm]

theorem outcome_publish (e : Event) (s : GateState) :
    outcome (publish e) s =
      match s.logsEvents, e.payload.toJson with
      | true, .error f => (.error f, s)
      | _, _ => (.ok ⟨⟩, { s with events := s.events ++ [e] }) := by
  unfold publish
  rw [outcome_bind, outcome_get]
  cases hl : s.logsEvents with
  | false => simp [hl]
  | true =>
    simp only [hl, if_true, outcome_bind, outcome_discard, outcome_ofReading]
    cases e.payload.toJson <;> simp [Except.map, hl]

/-- An event that is published is the last one then. -/
theorem returns_publish {e : Event} {u : Unit} (h : Returns (publish e) s u s') :
    s' = { s with events := s.events ++ [e] } := by
  unfold Returns at h
  rw [outcome_publish] at h
  split at h
  · cases h
  · exact (Prod.mk.inj h).2.symm

theorem outcome_publish_unlogged (e : Event) (h : s.logsEvents = false) :
    outcome (publish e) s = (.ok ⟨⟩, { s with events := s.events ++ [e] }) := by
  rw [outcome_publish, h]

/-! ## Stores -/

section Stores

variable (shelf : Shelf α)

theorem outcome_remove (id : Value) (s : GateState) :
    outcome (remove shelf id) s =
      match (shelf.read s).delete id with
      | .ok (_, t) => (.ok ⟨⟩, shelf.write s t)
      | .error f => (.error f, s) := by
  unfold remove
  rw [outcome_bind, outcome_get]
  simp only [outcome_bind, outcome_ofReading]
  rcases (shelf.read s).delete id with _ | ⟨_, _⟩ <;> rfl

variable [Stored α]

theorem outcome_find (id : Value) (s : GateState) :
    outcome (find shelf id) s = ((shelf.read s).get s.now id, s) := by
  unfold find
  rw [outcome_bind, outcome_get]
  exact outcome_ofReading ..

theorem outcome_ofTenant (tenant : Value) (s : GateState) :
    outcome (ofTenant shelf tenant) s = ((shelf.read s).ofTenant s.now tenant, s) := by
  unfold ofTenant
  rw [outcome_bind, outcome_get]
  exact outcome_ofReading ..

theorem outcome_all (s : GateState) : outcome (all shelf) s = ((shelf.read s).all s.now, s) := by
  unfold all
  rw [outcome_bind, outcome_get]
  exact outcome_ofReading ..

theorem outcome_keep (a : α) (s : GateState) :
    outcome (keep shelf a) s =
      match (shelf.read s).put a with
      | .ok t => (.ok ⟨⟩, shelf.write s t)
      | .error f => (.error f, s) := by
  unfold keep
  rw [outcome_bind, outcome_get]
  simp only [outcome_bind, outcome_ofReading]
  cases (shelf.read s).put a <;> rfl

theorem returns_keep {a : α} {u : Unit} :
    Returns (keep shelf a) s u s' ↔ ∃ t, (shelf.read s).put a = .ok t ∧ s' = shelf.write s t := by
  unfold Returns
  rw [outcome_keep]
  cases (shelf.read s).put a <;> simp [eq_comm]

theorem outcome_add (a : α) (s : GateState) :
    outcome (add shelf a) s =
      match (shelf.read s).add a with
      | .ok t => (.ok ⟨⟩, shelf.write s t)
      | .error f => (.error f, s) := by
  unfold add
  rw [outcome_bind, outcome_get]
  simp only [outcome_bind, outcome_ofReading]
  cases (shelf.read s).add a <;> rfl

theorem returns_add {a : α} {u : Unit} :
    Returns (add shelf a) s u s' ↔ ∃ t, (shelf.read s).add a = .ok t ∧ s' = shelf.write s t := by
  unfold Returns
  rw [outcome_add]
  cases (shelf.read s).add a <;> simp [eq_comm]

theorem outcome_findOrAdd (key : String) (a : α) (change : α → α) (s : GateState) :
    outcome (findOrAdd shelf key a change) s =
      match (shelf.read s).getOrAdd s.now key a change with
      | .ok (found, t) => (.ok found, shelf.write s t)
      | .error f => (.error f, s) := by
  unfold findOrAdd
  rw [outcome_bind, outcome_get]
  simp only [outcome_bind, outcome_ofReading]
  rcases (shelf.read s).getOrAdd s.now key a change with _ | ⟨_, _⟩ <;> rfl

theorem returns_findOrAdd {key : String} {a : α} {change : α → α} {found : Found α} :
    Returns (findOrAdd shelf key a change) s found s' ↔
      ∃ t, (shelf.read s).getOrAdd s.now key a change = .ok (found, t) ∧ s' = shelf.write s t := by
  unfold Returns
  rw [outcome_findOrAdd]
  rcases (shelf.read s).getOrAdd s.now key a change with f | ⟨found', t⟩
  · simp
  · simp only [Prod.mk.injEq, Except.ok.injEq]
    constructor
    · rintro ⟨rfl, rfl⟩
      exact ⟨t, ⟨rfl, rfl⟩, rfl⟩
    · rintro ⟨_, ⟨rfl, rfl⟩, rfl⟩
      exact ⟨rfl, rfl⟩

/-- Finding or adding yields what each store that it can lead to has. -/
theorem yields_findOrAdd {I : GateState → Prop} {F : Found α → Prop} {key : String} {a : α}
    {change : α → α}
    (h : ∀ s found t, I s → (shelf.read s).getOrAdd s.now key a change = .ok (found, t) →
      I (shelf.write s t) ∧ F found) :
    Yields I (findOrAdd shelf key a change) F := by
  intro s hs
  rw [outcome_findOrAdd]
  rcases hg : (shelf.read s).getOrAdd s.now key a change with f | ⟨found, t⟩
  · exact ⟨hs, fun found hf => nomatch hf⟩
  · obtain ⟨hI, hF⟩ := h s found t hs hg
    refine ⟨hI, fun found' hf => ?_⟩
    cases hf
    exact hF

end Stores

end Gate
end SupplyGate
