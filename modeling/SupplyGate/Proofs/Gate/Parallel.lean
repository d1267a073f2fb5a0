import SupplyGate.Proofs.Gate.Fixes

/-!
# Steps that do the same from gates with different pasts

What an action does goes by the clock, the update strategies and the number of calls that the collaborators have
had, and not by the events and calls themselves. Say that a gate differs from another one only in what was
published and called before. Two steps are parallel when from two such gates they give the same result, publish
the same events and make the same calls (`Parallel`); the second one may be about a violation whose rule has other
actions, and then its events carry that violation (`Event.about`). Steps are put together from parallel steps, and
what they leave is told along the way.
-/

namespace SupplyGate

/-- The violation of a rule with other actions. -/
def Violation.withActions (v : Violation) (actions : List RuleAction) : Violation :=
  { v with details := { v.details with rule := { v.details.rule with actions } } }

/-- The event with a violation in the place of the one that it carries. -/
def Event.about (v : Violation) : Event → Event
  | .violationResolved _ => .violationResolved v
  | .dependencyBlocked _ reason => .dependencyBlocked v reason
  | .dependencyWarned _ warning => .dependencyWarned v warning
  | .notificationSent _ channels recipients => .notificationSent v channels recipients
  | .autoFixTriggered _ strategy requiresApproval => .autoFixTriggered v strategy requiresApproval
  | .issueCreated _ tracker project issue issueKey => .issueCreated v tracker project issue issueKey
  | .escalated _ level moment => .escalated v level moment
  | e => e

/-- How many of some calls the notifier has had. -/
def notifierCalls (calls : List CollaboratorCall) : Nat := (calls.filter CollaboratorCall.isNotify).length

/-- How many of some calls the tracker has had. -/
def trackerCalls (calls : List CollaboratorCall) : Nat := (calls.filter (!·.isNotify)).length

/-- The collaborators as they answer once they have had so many calls more. -/
def Collaborators.later (others : Collaborators) (k l : Nat) : Collaborators where
  notifier := others.notifier.map fun reply n => reply (n + k)
  tracker := others.tracker.map fun reply n => reply (n + l)
  timeout := others.timeout

@[simp] theorem Collaborators.later_zero (others : Collaborators) : others.later 0 0 = others := by
  obtain ⟨notifier, tracker, timeout⟩ := others
  cases notifier <;> cases tracker <;> rfl

/-- A gate that has published more events and made more calls. -/
def GateState.also (s : GateState) (events : List Event) (calls : List CollaboratorCall) : GateState :=
  { s with events := s.events ++ events, calls := s.calls ++ calls }

namespace GateState

@[simp] theorem also_nil (s : GateState) : s.also [] [] = s := by
  simp [also]

theorem also_also (s : GateState) (es es' : List Event) (cs cs' : List CollaboratorCall) :
    (s.also es cs).also es' cs' = s.also (es ++ es') (cs ++ cs') := by
  simp [also]

end GateState

namespace Gate

/-- The second gate differs from the first in what was published and called before, by `k` calls of the notifier
and `l` of the tracker. If events are logged, the violation with the other actions is the violation itself. -/
structure Ahead (v : Violation) (actions : List RuleAction) (k l : Nat) (s t : GateState) : Prop where
  eq : t = { s with events := t.events, calls := t.calls }
  notified : notifierCalls t.calls = notifierCalls s.calls + k
  opened : trackerCalls t.calls = trackerCalls s.calls + l
  logged : s.logsEvents = true → v.withActions actions = v

/-- What a step leaves: its result, and the events and calls that it adds. -/
abbrev Trace (α : Type) := Reading α → List Event → List CollaboratorCall → Prop

/-- What a step that has returned leaves: its result, and the events and calls that it has added. -/
structure Share (α : Type) where
  result : α
  events : List Event
  calls : List CollaboratorCall

/-- What publishing an event leaves: the event, or nothing if the log refuses it. -/
inductive Told (e : Event) : Trace Unit where
  | told : Told e (.ok ()) [e] []
  | refused {f : Fault} : Told e (.error f) [] []

/-- From gates with different pasts, two steps give the same result and add the same events and calls, which are
told by `P`; the events of the second step carry the violation with other actions. -/
def Parallel {α : Type} (v : Violation) (actions : List RuleAction) (k l : Nat) (x y : Gate α) (P : Trace α) : Prop :=
  ∀ s t, Ahead v actions k l s t → ∃ r es cs, outcome x s = (r, s.also es cs) ∧
    outcome y t = (r, t.also (es.map (Event.about (v.withActions actions))) cs) ∧ P r es cs

section Ahead

variable {v : Violation} {actions : List RuleAction} {k l : Nat} {s t : GateState}

theorem Ahead.also (h : Ahead v actions k l s t) (es es' : List Event) (cs : List CollaboratorCall) :
    Ahead v actions k l (s.also es cs) (t.also es' cs) where
  eq := by
    rw [h.eq]
    rfl
  notified := by
    have hn := h.notified
    simp only [GateState.also, notifierCalls, List.filter_append, List.length_append] at hn ⊢
    omega
  opened := by
    have ho := h.opened
    simp only [GateState.also, trackerCalls, List.filter_append, List.length_append] at ho ⊢
    omega
  logged := h.logged

end Ahead

namespace Parallel

variable {α β : Type} {v : Violation} {actions : List RuleAction} {k l : Nat} {P P' : Trace α} {Q : Trace β}

/-- A step that gives something and adds nothing. -/
theorem silent {x y : Gate α} {r : GateState → Reading α} (hx : ∀ s, outcome x s = (r s, s))
    (hy : ∀ s t, Ahead v actions k l s t → outcome y t = (r s, t)) (hP : ∀ s, P (r s) [] []) :
    Parallel v actions k l x y P := by
  intro s t hst
  refine ⟨r s, [], [], ?_, ?_, hP s⟩
  · rw [hx, GateState.also_nil]
  · rw [hy s t hst, List.map_nil, GateState.also_nil]

theorem pure {a : α} (h : P (.ok a) [] []) : Parallel v actions k l (pure a) (pure a) P :=
  silent (r := fun _ => .ok a) (fun _ => rfl) (fun _ _ _ => rfl) fun _ => h

theorem throw {f : Fault} (h : P (.error f) [] []) : Parallel v actions k l (throw f) (throw f) P :=
  silent (r := fun _ => .error f) (fun _ => rfl) (fun _ _ _ => rfl) fun _ => h

theorem ofReading {r : Reading α} (h : P r [] []) : Parallel v actions k l (ofReading r) (ofReading r) P :=
  silent (r := fun _ => r) (outcome_ofReading r) (fun _ t _ => outcome_ofReading r t) fun _ => h

theorem clock_bind {f g : Timestamp → Gate α} (h : ∀ now, Parallel v actions k l (f now) (g now) P) :
    Parallel v actions k l (clock >>= f) (clock >>= g) P := by
  intro s t hst
  obtain ⟨r, es, cs, hx, hy, hr⟩ := h s.now s t hst
  refine ⟨r, es, cs, (outcome_bind_ok (outcome_clock s)).trans hx, (outcome_bind_ok (outcome_clock t)).trans ?_, hr⟩
  rw [hst.eq] at hy ⊢
  exact hy

theorem strategyOf {tenantId : Value} {P : Trace UpdateStrategy} (h : ∀ r, P r [] []) :
    Parallel v actions k l (strategyOf tenantId) (strategyOf tenantId) P := by
  refine silent (r := fun s => strategyIn s tenantId) (outcome_strategyOf tenantId) (fun s t hst => ?_) fun s => h _
  rw [outcome_strategyOf, hst.eq]
  rfl

theorem get_bind {f g : GateState → Gate α} (h : ∀ s t, Ahead v actions k l s t → Parallel v actions k l (f s) (g t) P) :
    Parallel v actions k l (get >>= f) (get >>= g) P := by
  intro s t hst
  obtain ⟨r, es, cs, hx, hy, hr⟩ := h s t hst s t hst
  refine ⟨r, es, cs, ?_, ?_, hr⟩
  · rwa [outcome_bind, outcome_get]
  · rwa [outcome_bind, outcome_get]

theorem noteCall {call : CollaboratorCall} {P : Trace Unit} (h : P (.ok ()) [] [call]) :
    Parallel v actions k l (noteCall call) (noteCall call) P := by
  refine fun s t _ => ⟨.ok (), [], [call], ?_, ?_, h⟩ <;> simp [Gate.noteCall, GateState.also]

/-- An event that is made from the violation is published, or refused by the log. -/
theorem publish {e : Violation → Event} (habout : (e v).about (v.withActions actions) = e (v.withActions actions)) :
    Parallel v actions k l (publish (e v)) (publish (e (v.withActions actions))) (Told (e v)) := by
  intro s t hst
  have hlogs : t.logsEvents = s.logsEvents := by
    rw [hst.eq]
  rw [outcome_publish, outcome_publish, hlogs]
  cases hl : s.logsEvents with
  | false =>
    refine ⟨.ok (), [e v], [], ?_, ?_, .told⟩
    · simp [GateState.also, hl]
    · simp [GateState.also, habout, hlogs, hl]
  | true =>
    rw [hst.logged hl] at habout ⊢
    cases (e v).payload.toJson with
    | error f => exact ⟨.error f, [], [], by simp, by simp, .refused⟩
    | ok text =>
      refine ⟨.ok (), [e v], [], ?_, ?_, .told⟩
      · simp [GateState.also, hl]
      · simp [GateState.also, habout, hlogs, hl]

theorem bind {x y : Gate α} {f g : α → Gate β} (h : Parallel v actions k l x y P)
    (hf : ∀ a es cs, P (.ok a) es cs →
      Parallel v actions k l (f a) (g a) fun r es' cs' => Q r (es ++ es') (cs ++ cs'))
    (hfault : ∀ e es cs, P (.error e) es cs → Q (.error e) es cs) : Parallel v actions k l (x >>= f) (y >>= g) Q := by
  intro s t hst
  obtain ⟨r, es, cs, hx, hy, hr⟩ := h s t hst
  cases r with
  | error e => exact ⟨.error e, es, cs, outcome_bind_error hx, outcome_bind_error hy, hfault e es cs hr⟩
  | ok a =>
    obtain ⟨r, es', cs', hx', hy', hr'⟩ := hf a es cs hr _ _ (hst.also es _ cs)
    refine ⟨r, es ++ es', cs ++ cs', ?_, ?_, hr'⟩
    · rw [outcome_bind_ok hx, hx', GateState.also_also]
    · rw [outcome_bind_ok hy, hy', GateState.also_also, List.map_append]

/-- The first of two steps adds nothing. -/
theorem after {x y : Gate α} {f g : α → Gate β} (h : Parallel v actions k l x y fun _ es cs => es = [] ∧ cs = [])
    (hf : ∀ a, Parallel v actions k l (f a) (g a) Q) (hfault : ∀ e, Q (.error e) [] []) :
    Parallel v actions k l (x >>= f) (y >>= g) Q := by
  refine h.bind ?_ ?_
  · rintro a _ _ ⟨rfl, rfl⟩
    exact hf a
  · rintro e _ _ ⟨rfl, rfl⟩
    exact hfault e

theorem tryCatch {x y : Gate α} {handle : Fault → Gate α} (h : Parallel v actions k l x y P)
    (hok : ∀ a es cs, P (.ok a) es cs → P' (.ok a) es cs)
    (hfault : ∀ f es cs, P (.error f) es cs →
      Parallel v actions k l (handle f) (handle f) fun r es' cs' => P' r (es ++ es') (cs ++ cs')) :
    Parallel v actions k l (tryCatch x handle) (tryCatch y handle) P' := by
  intro s t hst
  obtain ⟨r, es, cs, hx, hy, hr⟩ := h s t hst
  rw [outcome_tryCatch, outcome_tryCatch, hx, hy]
  cases r with
  | ok a => exact ⟨.ok a, es, cs, rfl, rfl, hok a es cs hr⟩
  | error f =>
    obtain ⟨r, es', cs', hx', hy', hr'⟩ := hfault f es cs hr _ _ (hst.also es _ cs)
    refine ⟨r, es ++ es', cs ++ cs', ?_, ?_, hr'⟩
    · exact hx'.trans (by rw [GateState.also_also])
    · exact hy'.trans (by rw [GateState.also_also, List.map_append])

/-- What each step over the items of a list leaves, the run over the list leaves one after the other. -/
theorem mapM {f g : α → Gate β} {T : α → Share β → Prop} : ∀ {as : List α},
    (∀ a ∈ as, Parallel v actions k l (f a) (g a) (fun r es cs => ∃ b, r = .ok b ∧ T a ⟨b, es, cs⟩)) →
      Parallel v actions k l (as.mapM f) (as.mapM g) (fun r es cs => ∃ xs : List (Share β), List.Forall₂ T as xs ∧
        r = .ok (xs.map (·.result)) ∧ es = xs.flatMap (·.events) ∧ cs = xs.flatMap (·.calls))
  | [], _ => by
    rw [List.mapM_nil, List.mapM_nil]
    exact .pure ⟨[], .nil, rfl, rfl, rfl⟩
  | a :: as, h => by
    rw [List.mapM_cons, List.mapM_cons]
    refine (h a List.mem_cons_self).bind ?_ ?_
    · rintro b es cs ⟨_, ⟨⟩, hb⟩
      refine (mapM fun a' ha' => h a' (List.mem_cons_of_mem _ ha')).bind ?_ ?_
      · rintro bs _ _ ⟨xs, hxs, ⟨⟩, rfl, rfl⟩
        refine .pure ⟨⟨b, es, cs⟩ :: xs, .cons hb hxs, rfl, ?_, ?_⟩
        · rw [List.append_nil, List.flatMap_cons]
        · rw [List.append_nil, List.flatMap_cons]
      · rintro e _ _ ⟨_, _, ⟨⟩, _⟩
    · rintro e _ _ ⟨_, ⟨⟩, _⟩

end Parallel
end Gate
end SupplyGate
