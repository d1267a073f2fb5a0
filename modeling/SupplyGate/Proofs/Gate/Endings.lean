import Mathlib.Algebra.GroupWithZero.Nat
import SupplyGate.Proofs.Gate.Accounting
import SupplyGate.Proofs.Gate.Recording

/-!
# How the turns of a run end

A run plans a course for each dependency whose turn is not cancelled. A turn files the findings of its
course, and ends with an evaluation or an error as the course does; it fails only where the error cannot
be told, for a name that cannot be written. So what a run finds, reports and tells is read off its plan, but
for the records of its findings; these are read off the store that it leaves (`evaluateAll_ran`).
-/

namespace SupplyGate

/-- How many actions are enabled for the findings of an evaluation. -/
def Evaluation.actionCount (e : Evaluation) : Nat :=
  (e.findings.map (·.details.rule.enabledActions.length)).sum

/-- How a turn ends that takes this course, when its findings have these records. -/
def Course.ending (records : Violation → Violation) (d : Dependency) (now : Timestamp) (x : Course) :
    Except String Evaluation :=
  match x.result records with
  | .error f => .error f.message
  | .ok t =>
    let e := t.evaluation d now
    .ok { e with actionsExecuted := .int e.actionCount }

/-- The name and the error in the event that tells of a dependency that could not be evaluated. -/
def Event.failure : Event → Option (Value × String)
  | .dependencyFailed _ _ name error => some (name, error)
  | _ => none

theorem Event.failure_eq_none {e : Event} (h : e.failedName = none) : e.failure = none := by
  cases e <;> simp_all [failedName, failure]

namespace Gate

open MemoryStore (Filing Follows recorded)

/-- How a turn ended: with an evaluation, with an error, or not at all. -/
def Turn.ending : Turn → Option (Except String Evaluation)
  | .evaluated e _ => some (.ok e)
  | .skipped error => some (.error error)
  | .cancelled => none

/-! ## Plans -/

/-- The dependencies of a run, each with the course of its turn unless that is cancelled. -/
abbrev Plan := List (Dependency × Option Course)

namespace Plan

/-- The plan of a run whose turns at some positions are cancelled. -/
def of (policies : List Policy) (c : EvaluationContext) (now : Timestamp) (stop : Nat → Bool)
    (turns : List (Dependency × Nat)) : Plan :=
  turns.map fun (d, n) => (d, if stop n then none else some (dependencyCourse d c now policies))

/-- The findings of a plan. -/
def findings (p : Plan) : List Violation := p.flatMap fun (_, x) => (x.map Course.findings).getD []

/-- How the turns of a plan end, when its findings have these records. -/
def endings (records : Violation → Violation) (now : Timestamp) (p : Plan) :
    List (Dependency × Option (Except String Evaluation)) :=
  p.map fun (d, x) => (d, x.map (·.ending records d now))

/-- The names of the dependencies that could not be evaluated and are told of, and the errors. -/
def failures (p : Plan) : List (Value × String) :=
  p.flatMap fun (d, x) =>
    if d.name.isWritable then ((x.bind (·.stop)).map fun e => (d.name, e.fault.message)).toList else []

/-- Telling of the dependencies that could not be evaluated, whose names have to be ones that can be written. -/
def tell (p : Plan) : Reading Unit :=
  p.forM fun (d, x) => if (x.bind (·.stop)).isSome then d.name.checkWritable else .ok ()

theorem tell_append (p q : Plan) : (p ++ q).tell = p.tell >>= fun _ => q.tell := List.forM_append

theorem tell_singleton (d : Dependency) (x : Option Course) :
    tell [(d, x)] = if (x.bind (·.stop)).isSome then d.name.checkWritable else .ok () := by
  change (if _ then _ else _) >>= pure = _
  exact bind_pure _

end Plan

/-- The evaluations among the endings of turns. -/
def evaluationsIn (endings : List (Dependency × Option (Except String Evaluation))) : List Evaluation :=
  endings.filterMap fun
    | (_, some (.ok e)) => some e
    | _ => none

/-- The errors among the endings of turns, by dependency. -/
def errorsIn (endings : List (Dependency × Option (Except String Evaluation))) : List (Scalar × Value) :=
  endings.foldl (fun errors (d, t) =>
    match t with
    | some (.error error) => Value.insert (.str d.ident) (.str error) errors
    | _ => errors) []

/-- The turns of a run, each with its ending. -/
def endingsOf (turns : List (Dependency × Turn)) : List (Dependency × Option (Except String Evaluation)) :=
  turns.map fun (d, t) => (d, t.ending)

theorem evaluationsOf_eq (turns : List (Dependency × Turn)) :
    evaluationsOf turns = evaluationsIn (endingsOf turns) := by
  unfold evaluationsOf evaluationsIn endingsOf
  rw [List.filterMap_map]
  refine List.filterMap_congr fun t _ => ?_
  obtain ⟨d, t⟩ := t
  cases t <;> rfl

theorem errorsOf_eq (turns : List (Dependency × Turn)) : errorsOf turns = errorsIn (endingsOf turns) := by
  unfold errorsOf errorsIn endingsOf
  rw [List.foldl_map]
  congr 1
  funext errors t
  obtain ⟨d, t⟩ := t
  cases t <;> rfl

/-! ## What a run does to a gate -/

/-- The findings of a plan were filed, and of its failures it was told, while the clock stood still. -/
structure Ran (now : Timestamp) (p : Plan) (m : MemoryStore Violation) (s : GateState)
    (m' : MemoryStore Violation) (s' : GateState) : Prop where
  filing : ∃ events, Filing now m p.findings m' events
  recording : Recording m' s'
  clock : s'.now = s.now
  told : ∃ events, s'.events = s.events ++ events ∧ events.filterMap Event.failure = p.failures

section Ran

variable {now : Timestamp} {p q : Plan} {m m' m'' : MemoryStore Violation} {s s' s'' : GateState}

theorem Ran.append (h : Ran now p m s m' s') (h' : Ran now q m' s' m'' s'') :
    Ran now (p ++ q) m s m'' s'' where
  filing := by
    obtain ⟨events, hf⟩ := h.filing
    obtain ⟨more, hf'⟩ := h'.filing
    refine ⟨events ++ more, ?_⟩
    simpa [Plan.findings] using hf.append hf'
  recording := h'.recording
  clock := h'.clock.trans h.clock
  told := by
    obtain ⟨events, he, hfail⟩ := h.told
    obtain ⟨more, he', hfail'⟩ := h'.told
    refine ⟨events ++ more, ?_, ?_⟩
    · rw [he', he, List.append_assoc]
    · rw [List.filterMap_append, hfail, hfail']
      simp [Plan.failures]

/-- A step beside the turns of a run leaves the violations alone and tells of no failure. -/
theorem Recording.ran_nil (h : Recording m s') (hc : s'.now = s.now)
    (he : ∃ events, s'.events = s.events ++ events ∧ ∀ e ∈ events, e.failure = none) :
    Ran now [] m s m s' where
  filing := ⟨[], .nil m⟩
  recording := h
  clock := hc
  told := by
    obtain ⟨events, he, hnone⟩ := he
    exact ⟨events, he, List.filterMap_eq_nil_iff.mpr hnone⟩

theorem Recording.ran_publish (h : Recording m s) {e : Event} (he : e.failure = none) :
    Ran now [] m s m { s with events := s.events ++ [e] } :=
  (h.publish e).ran_nil rfl ⟨[e], rfl, by simpa using he⟩

end Ran

theorem filterMap_failure_quiet {events : List Event} (h : events.filterMap Event.failedName = []) :
    events.filterMap Event.failure = [] := by
  rw [List.filterMap_eq_nil_iff] at h ⊢
  exact fun e he => Event.failure_eq_none (h e he)

/-- Filing findings tells of no failure. -/
theorem filterMap_failure_filing {now : Timestamp} {m m' : MemoryStore Violation} {vs : List Violation}
    {events : List Event} (h : Filing now m vs m' events) : events.filterMap Event.failure = [] := by
  refine List.filterMap_eq_nil_iff.mpr fun e he => ?_
  obtain ⟨tenantId, id, rfl⟩ := h.reopened e he
  rfl

/-! ## Actions -/

section Actions

variable {others : Collaborators} {c : EvaluationContext} {I : GateState → Prop}

/-- One executed action is noted for each enabled one. -/
theorem yields_execute (hp : ∀ e : Event, e.Incidental → Keeps I (publish e))
    (hn : ∀ call, Keeps I (noteCall call)) (v : Violation) :
    Yields I (execute others c v) fun executed => executed.length = v.details.rule.enabledActions.length := by
  unfold execute
  refine (Yields.mapM (R := fun _ _ => True) fun a _ => keeps_runAction hp hn a).mono fun executed h => ?_
  exact h.length_eq.symm

theorem length_flatten {executed : List (List ExecutedAction)} {vs : List Violation}
    (h : List.Forall₂ (fun v (l : List ExecutedAction) => l.length = v.details.rule.enabledActions.length)
      vs executed) :
    executed.flatten.length = (vs.map (·.details.rule.enabledActions.length)).sum := by
  induction h with
  | nil => rfl
  | cons hl _ ih =>
    rw [List.flatten_cons, List.length_append, List.map_cons, List.sum_cons, hl, ih]

end Actions

/-! ## Turns -/

section Turns

variable {now : Timestamp} {m : MemoryStore Violation} {s : GateState} {others : Collaborators}
  {evaluationId tenantId : Value} {policies : List Policy} {c : EvaluationContext} {stop : Nat → Bool}
  {before : Nat} {d : Dependency}

/-- An evaluation goes on to its actions, of which as many are executed as are enabled. -/
theorem evaluateAndAct_evaluated {e : Evaluation} {m' : MemoryStore Violation} {s₁ : GateState}
    (he : Returns (evaluateDependency d policies c) s e s₁) (h : Recording m' s₁) :
    ∃ executed s', Returns (evaluateAndAct others policies c d) s
        (.evaluated { e with actionsExecuted := .int executed.length } executed) s' ∧
      Recording m' s' ∧ s'.now = s₁.now ∧ executed.length = e.actionCount := by
  have L := (recording_runLaw m').timed s₁.now
  have hyields : Yields (fun t => Recording m' t ∧ t.now = s₁.now) (e.findings.mapM (execute others c)) _ :=
    Yields.mapM fun v _ => yields_execute (fun e _ => L.keeps_publish e) L.keeps_noteCall v
  obtain ⟨executed, s', hx⟩ : Succeeds (e.findings.mapM (execute others c)) s₁ :=
    succeeds_mapM (I := fun _ => True) trivial (fun _ _ => keeps_true _) fun _ _ _ _ => succeeds_execute
  obtain ⟨⟨hrec, hnow⟩, hlength⟩ := hyields.returns ⟨h, rfl⟩ hx
  refine ⟨executed.flatten, s', ?_, hrec, hnow, length_flatten hlength⟩
  exact returns_bind.mpr ⟨e, s₁, he, returns_bind.mpr ⟨executed, s', hx, rfl⟩⟩

theorem evaluateAndAct_fails {f : Fault} {s₁ : GateState} (hf : Fails (evaluateDependency d policies c) s f s₁) :
    Fails (evaluateAndAct others policies c d) s f s₁ := by
  unfold Fails evaluateAndAct
  rw [liftM_self, outcome_bind, hf]

theorem turn_cancelled {cancel : Cancellation} {n : Nat} (hcancel : cancel n (s.events.drop before) = true) :
    Returns (turn others evaluationId tenantId policies c cancel before (d, n)) s (d, .cancelled) s := by
  rw [turn_eq]
  refine returns_bind.mpr ⟨s, s, rfl, ?_⟩
  simp only [hcancel, if_true]
  rfl

/-- Skipping a dependency whose name can be written tells of its failure; another one cannot be told. -/
theorem outcome_skip (hl : s.logsEvents = false) (f : Fault) :
    outcome (skip evaluationId tenantId d f) s =
      if d.name.isWritable then
        (.ok (.skipped f.message),
          { s with events := s.events ++ [.dependencyFailed evaluationId tenantId d.name f.message] })
      else (.error .longNumber, s) := by
  unfold skip logValues Value.checkAll
  rw [outcome_bind, outcome_ofReading]
  cases hname : d.name.isWritable with
  | true =>
    simp only [List.all_cons, hname, List.all_nil, Bool.and_self, if_true]
    rw [outcome_bind_ok (outcome_publish_unlogged _ hl)]
    rfl
  | false => simp [hname]

/-- A turn that is not cancelled is skipped where the dependency cannot be evaluated. -/
theorem outcome_turn_of_fails {cancel : Cancellation} {n : Nat} {f : Fault} {s₁ : GateState}
    (hcancel : cancel n (s.events.drop before) = false) (hf : Fails (evaluateDependency d policies c) s f s₁) :
    outcome (turn others evaluationId tenantId policies c cancel before (d, n)) s =
      ((outcome (skip evaluationId tenantId d f) s₁).1.map (d, ·), (outcome (skip evaluationId tenantId d f) s₁).2) := by
  rw [turn_eq, outcome_bind, outcome_get]
  simp only [hcancel, Bool.false_eq_true, if_false]
  rw [outcome_bind, outcome_tryCatch, show outcome (evaluateAndAct others policies c d) s = _ from evaluateAndAct_fails hf]
  dsimp only
  rcases outcome (skip evaluationId tenantId d f) s₁ with ⟨_ | _, _⟩ <;> rfl

/-- The failure of a turn that is skipped is told last. -/
theorem turn_skipped {cancel : Cancellation} {n : Nat} {f : Fault} {s₁ : GateState} (hname : d.name.isWritable = true)
    (hcancel : cancel n (s.events.drop before) = false)
    (hf : Fails (evaluateDependency d policies c) s f s₁) (hl : s₁.logsEvents = false) :
    Returns (turn others evaluationId tenantId policies c cancel before (d, n)) s (d, .skipped f.message)
      { s₁ with events := s₁.events ++ [.dependencyFailed evaluationId tenantId d.name f.message] } := by
  rw [Returns, outcome_turn_of_fails hcancel hf, outcome_skip hl, if_pos hname]
  rfl

/-- A turn whose failure cannot be told fails. -/
theorem turn_untold {cancel : Cancellation} {n : Nat} {f : Fault} {s₁ : GateState} (hname : d.name.isWritable = false)
    (hcancel : cancel n (s.events.drop before) = false)
    (hf : Fails (evaluateDependency d policies c) s f s₁) (hl : s₁.logsEvents = false) :
    Fails (turn others evaluationId tenantId policies c cancel before (d, n)) s .longNumber s₁ := by
  rw [Fails, outcome_turn_of_fails hcancel hf, outcome_skip hl, hname]
  rfl

theorem turn_evaluated {cancel : Cancellation} {n : Nat} {t : Turn} {s₁ : GateState}
    (hcancel : cancel n (s.events.drop before) = false)
    (ht : Returns (evaluateAndAct others policies c d) s t s₁) :
    Returns (turn others evaluationId tenantId policies c cancel before (d, n)) s (d, t) s₁ := by
  rw [turn_eq]
  refine returns_bind.mpr ⟨s, s, rfl, ?_⟩
  simp only [hcancel, Bool.false_eq_true, if_false]
  exact returns_bind.mpr ⟨t, s₁, returns_tryCatch.mpr (.inl ht), rfl⟩

/-- How the turns of a plan went: they did what the plan says, gave something if what had to be told could be, and
then executed as many actions as were enabled. -/
structure Went (now : Timestamp) (p : Plan) (m : MemoryStore Violation) (s : GateState)
    (turns : Reading (List (Dependency × Turn))) (m' : MemoryStore Violation) (s' : GateState) : Prop where
  ran : Ran now p m s m' s'
  told : (turns >>= fun _ => .ok ()) = p.tell
  endings : ∀ ts, turns = .ok ts → ∀ u, Follows now m' u → endingsOf ts = p.endings (recorded now u) now
  executed : ∀ ts, turns = .ok ts → (executedOf ts).length = ((evaluationsOf ts).map Evaluation.actionCount).sum

theorem went_cancelled (h : Recording m s) : Went now [(d, none)] m s (.ok [(d, .cancelled)]) m s where
  ran := ⟨⟨[], .nil m⟩, h, rfl, [], by simp, by simp [Plan.failures]⟩
  told := rfl
  endings := by
    rintro _ ⟨⟩ _ _
    rfl
  executed := by
    rintro _ ⟨⟩
    rfl

/-- The turn of a dependency whose course stops is skipped with the fault of the course, if that can be told. -/
theorem went_skipped (h : Recording m s) (hnow : evaluationTime c s = now) {f : Stop}
    (hstop : (dependencyCourse d c now policies).stop = some f) {cancel : Cancellation} {n : Nat}
    (hcancel : cancel n (s.events.drop before) = false) :
    ∃ r m' s', outcome (turn others evaluationId tenantId policies c cancel before (d, n)) s = (r, s') ∧
      Went now [(d, some (dependencyCourse d c now policies))] m s (r >>= fun t => .ok [t]) m' s' := by
  obtain ⟨m', events, s₁, hf, hr⟩ := evaluateDependency_stopped h hnow hstop
  have hfiling : Filing now m (Plan.findings [(d, some (dependencyCourse d c now policies))]) m' events := by
    simpa [Plan.findings] using hr.filing
  have hevents : s₁.events = s.events ++ events := by rw [hr.state]
  have hclock : s₁.now = s.now := by rw [hr.state]
  cases hname : d.name.isWritable with
  | true =>
    refine ⟨_, m', _, turn_skipped hname hcancel hf hr.recording.unlogged,
      ⟨⟨events, hfiling⟩, hr.recording.publish _, hclock, ?_⟩, ?_, ?_, ?_⟩
    · refine ⟨events ++ [.dependencyFailed evaluationId tenantId d.name f.fault.message], ?_, ?_⟩
      · rw [hevents, List.append_assoc]
      · rw [List.filterMap_append, filterMap_failure_filing hr.filing]
        simp [Plan.failures, Event.failure, hstop, hname]
    · rw [Plan.tell_singleton, Value.checkWritable, hname]
      simp [bind, Except.bind]
    · rintro _ ⟨⟩ u hu
      simp [endingsOf, Turn.ending, Plan.endings, Course.ending, Course.result, hstop]
    · rintro _ ⟨⟩
      rfl
  | false =>
    refine ⟨_, m', _, turn_untold hname hcancel hf hr.recording.unlogged,
      ⟨⟨events, hfiling⟩, hr.recording, hclock, events, hevents, ?_⟩, ?_, by rintro _ ⟨⟩, by rintro _ ⟨⟩⟩
    · rw [filterMap_failure_filing hr.filing]
      simp [Plan.failures, hname]
    · rw [Plan.tell_singleton, Value.checkWritable, hname]
      simp [hstop, bind, Except.bind]

/-- The turn of a dependency whose course goes through gives an evaluation. -/
theorem went_evaluated (h : Recording m s) (hnow : evaluationTime c s = now)
    (hstop : (dependencyCourse d c now policies).stop = none) {cancel : Cancellation} {n : Nat}
    (hcancel : cancel n (s.events.drop before) = false) :
    ∃ r m' s', outcome (turn others evaluationId tenantId policies c cancel before (d, n)) s = (r, s') ∧
      Went now [(d, some (dependencyCourse d c now policies))] m s (r >>= fun t => .ok [t]) m' s' := by
  obtain ⟨e, m', events, s₁, he, hr, hres⟩ := evaluateDependency_finished h hnow hstop
  obtain ⟨executed, s', hact, hrec, hclock, hlength⟩ := evaluateAndAct_evaluated he hr.recording
  refine ⟨_, m', s', turn_evaluated hcancel hact, ⟨?_, hrec, ?_, ?_⟩, ?_, ?_, ?_⟩
  · exact ⟨events, by simpa [Plan.findings] using hr.filing⟩
  · rw [hclock, hr.state]
  · obtain ⟨⟨told, htold, hquiet⟩, -⟩ := quiet_evaluateAndAct.returns (QuietSince.refl s) hact
    refine ⟨told, htold, ?_⟩
    simp [filterMap_failure_quiet hquiet, Plan.failures, hstop]
  · simp [Plan.tell_singleton, hstop, bind, Except.bind]
  · rintro _ ⟨⟩ u hu
    simp [endingsOf, Turn.ending, Plan.endings, Course.ending, Course.result, hstop, ← hres u hu, hlength]
  · rintro _ ⟨⟩
    simp only [executedOf, evaluationsOf, List.flatMap_cons, List.flatMap_nil, List.append_nil,
      List.filterMap_cons, List.filterMap_nil, List.map_cons, List.map_nil, List.sum_cons, List.sum_nil]
    exact hlength

/-- A turn goes as planned. -/
theorem turn_went (h : Recording m s) (hnow : evaluationTime c s = now) (n : Nat) :
    ∃ r m' s', outcome (turn others evaluationId tenantId policies c (fun n _ => stop n) before (d, n)) s = (r, s') ∧
      Went now (.of policies c now stop [(d, n)]) m s (r >>= fun t => .ok [t]) m' s' := by
  by_cases hc : stop n = true
  · have hplan : Plan.of policies c now stop [(d, n)] = [(d, none)] := by simp [Plan.of, hc]
    rw [hplan]
    exact ⟨_, m, s, turn_cancelled hc, went_cancelled h⟩
  · have hc : stop n = false := Bool.eq_false_iff.mpr hc
    have hplan : Plan.of policies c now stop [(d, n)] = [(d, some (dependencyCourse d c now policies))] := by
      simp [Plan.of, hc]
    rw [hplan]
    cases hstop : (dependencyCourse d c now policies).stop with
    | some f => exact went_skipped h hnow hstop hc
    | none => exact went_evaluated h hnow hstop hc

theorem Plan.of_cons (dn : Dependency × Nat) (l : List (Dependency × Nat)) :
    Plan.of policies c now stop (dn :: l) = Plan.of policies c now stop [dn] ++ Plan.of policies c now stop l :=
  rfl

theorem Went.cons {p q : Plan} {r : Reading (Dependency × Turn)} {turns : Reading (List (Dependency × Turn))}
    {m₁ m₂ : MemoryStore Violation} {s₁ s₂ : GateState} (h : Went now p m s (r >>= fun t => .ok [t]) m₁ s₁)
    (h' : Went now q m₁ s₁ turns m₂ s₂) :
    Went now (p ++ q) m s (r >>= fun t => turns >>= fun ts => .ok (t :: ts)) m₂ s₂ where
  ran := h.ran.append h'.ran
  told := by
    rw [Plan.tell_append, ← h.told, ← h'.told]
    cases r <;> cases turns <;> rfl
  endings := by
    intro _ hts u hu
    obtain ⟨t, rfl, hrest⟩ := Reading.bind_eq_ok.mp hts
    obtain ⟨ts, rfl, hlist⟩ := Reading.bind_eq_ok.mp hrest
    obtain rfl := Except.ok.inj hlist
    obtain ⟨events, hf⟩ := h'.ran.filing
    have h₁ := h.endings [t] rfl u ((hf.follows h.ran.recording.filed).trans hu)
    have h₂ := h'.endings ts rfl u hu
    unfold endingsOf at h₁ h₂ ⊢
    rw [List.map_cons, h₂]
    unfold Plan.endings at h₁ ⊢
    rw [List.map_append, ← h₁]
    rfl
  executed := by
    intro _ hts
    obtain ⟨t, rfl, hrest⟩ := Reading.bind_eq_ok.mp hts
    obtain ⟨ts, rfl, hlist⟩ := Reading.bind_eq_ok.mp hrest
    obtain rfl := Except.ok.inj hlist
    have hexecuted : executedOf (t :: ts) = executedOf [t] ++ executedOf ts := by simp [executedOf]
    have hevaluations : evaluationsOf (t :: ts) = evaluationsOf [t] ++ evaluationsOf ts :=
      List.filterMap_append (l := [t])
    rw [hexecuted, hevaluations, List.length_append, h.executed [t] rfl, h'.executed ts rfl, List.map_append,
      List.sum_append]

/-- The turns of a run go as planned, those after a turn that fails, too. -/
theorem turns_went : ∀ {l : List (Dependency × Nat)} {m : MemoryStore Violation} {s : GateState},
    Recording m s → evaluationTime c s = now →
    ∃ turns m' s',
      outcome (takeAll (turn others evaluationId tenantId policies c (fun n _ => stop n) before) l) s = (turns, s') ∧
      Went now (.of policies c now stop l) m s turns m' s'
  | [], m, s, h, _ => by
    refine ⟨_, m, s, outcome_takeAll_nil _ _, ?_, rfl, ?_, ?_⟩
    · exact h.ran_nil rfl ⟨[], by simp, by simp⟩
    · rintro _ ⟨⟩ _ _
      rfl
    · rintro _ ⟨⟩
      rfl
  | (d, n) :: l, m, s, h, hnow => by
    obtain ⟨r, m₁, s₁, ht, hwent⟩ := turn_went h hnow n
    have hnow₁ : evaluationTime c s₁ = now := by
      rw [← hnow, evaluationTime, hwent.ran.clock, evaluationTime]
    obtain ⟨turns, m₂, s₂, hturns, hwent'⟩ := turns_went hwent.ran.recording hnow₁
    refine ⟨_, m₂, s₂, ?_, hwent.cons hwent'⟩
    rw [outcome_takeAll_cons, ht]
    dsimp only
    rw [hturns]

end Turns

/-! ## Runs -/

/-- What a run tells of the dependencies. -/
structure Report where
  evaluations : List Evaluation
  errors : List (Scalar × Value)
  summary : EnforcementSummary

/-- What the result of a run tells of the dependencies. -/
def reportOf (r : EnforcementResult) : Report := ⟨r.evaluations, r.errors, r.summary⟩

/-- The report of turns that ended in some way. -/
def report (policies : List Policy) (endings : List (Dependency × Option (Except String Evaluation)))
    (executed : List ExecutedAction) : Reading Report := do
  let summary ← summarize policies (evaluationsIn endings) executed
  return ⟨evaluationsIn endings, errorsIn endings, summary⟩

/-- Of the executed actions only their number counts. -/
theorem report_congr {executed executed' : List ExecutedAction} (h : executed.length = executed'.length)
    (policies : List Policy) (endings : List (Dependency × Option (Except String Evaluation))) :
    report policies endings executed = report policies endings executed' := by
  unfold report summarize
  rw [h]

/-- How many actions the evaluations of a run have executed. -/
def Executes (endings : List (Dependency × Option (Except String Evaluation)))
    (executed : List ExecutedAction) : Prop :=
  executed.length = ((evaluationsIn endings).map Evaluation.actionCount).sum

/-- A run with a plan that left a store of violations gave this: a report on the turns that it planned, with the
records in any later store, if what had to be told could be. -/
def Plan.Reports (p : Plan) (policies : List Policy) (now : Timestamp) (m : MemoryStore Violation)
    (r : Reading EnforcementResult) : Prop :=
  ∃ executed, ∀ u, Follows now m u →
    (p.tell = .ok () → Executes (p.endings (recorded now u) now) executed) ∧
      r.map reportOf = p.tell >>= fun _ => report policies (p.endings (recorded now u) now) executed

section Runs

variable {now start : Timestamp} {m : MemoryStore Violation} {s : GateState} {others : Collaborators}
  {evaluationId tenantId : Value} {policies active : List Policy} {c : EvaluationContext}
  {stop : Nat → Bool} {before : Nat} {ds : List Dependency}

/-- A result under a key is kept, and nothing else changes. -/
theorem keepResult_ran (h : Recording m s) (r : EnforcementResult) {k : Scalar}
    (hid : r.evaluationId = .scalar k) :
    ∃ s', outcome (keep .evaluations r) s = (.ok (), s') ∧ Ran now [] m s m s' := by
  obtain ⟨results, hresults⟩ := h.results
  have hkey : MemoryStore.keyOf r = .ok k.key := by
    change r.evaluationId.asKey = _
    rw [hid]
    rfl
  have hput : (Shelf.evaluations.read s).put r = .ok (.memory (results.store k.key r)) := by
    rw [show Shelf.evaluations.read s = .memory results from hresults]
    exact Store.put_memory.mpr ⟨_, MemoryStore.put_ok.mpr ⟨k.key, hkey, rfl⟩, rfl⟩
  refine ⟨{ s with evaluations := .memory (results.store k.key r) }, ?_, ?_⟩
  · rw [outcome_keep, hput]
    rfl
  · have hkept : Recording m { s with evaluations := .memory (results.store k.key r) } :=
      ⟨h.unlogged, h.violations, h.given, h.filed, _, rfl⟩
    exact hkept.ran_nil rfl ⟨[], by simp, by simp⟩

/-- The result of a run reports on its turns, and keeping it leaves the violations as they are. -/
theorem conclude_reports (h : Recording m s) {k : Scalar} (hid : evaluationId = .scalar k)
    (turns : List (Dependency × Turn)) :
    ∃ r s', outcome (conclude evaluationId tenantId active start ds turns) s = (r, s') ∧
      Ran now [] m s m s' ∧ r.map reportOf = report active (endingsOf turns) (executedOf turns) := by
  unfold conclude report
  rw [← evaluationsOf_eq, ← errorsOf_eq]
  simp only [liftM_eq_ofReading, outcome_bind, outcome_ofReading, outcome_clock]
  cases summarize active (evaluationsOf turns) (executedOf turns) with
  | error f => exact ⟨.error f, s, rfl, h.ran_nil rfl ⟨[], by simp, by simp⟩, rfl⟩
  | ok summary =>
    dsimp only
    generalize hresult : EnforcementResult.mk _ _ _ _ _ _ _ _ _ _ _ _ _ _ _ _ = result
    obtain ⟨s', hkeep, hkept⟩ : ∃ s', outcome (keep .evaluations result) s = (.ok (), s') ∧
        Ran now [] m s m s' := keepResult_ran h result (by rw [← hresult]; exact hid)
    rw [hkeep]
    refine ⟨.ok result, s', rfl, hkept, ?_⟩
    rw [← hresult]
    rfl

/-- A run goes as planned, and reports on its turns if what had to be told could be. -/
theorem runTurns_ran (h : Recording m s) (hnow : evaluationTime c s = now)
    (hactive : Policy.active (policies.filter (·.tenantId.same tenantId)) = .ok active) {k : Scalar}
    (hid : evaluationId = .scalar k) :
    ∃ r m' s', outcome (runTurns others evaluationId tenantId policies c (fun n _ => stop n) before start ds) s =
        (r, s') ∧
      Ran now (.of active c now stop ds.zipIdx) m s m' s' ∧
      (Plan.of active c now stop ds.zipIdx).Reports active now m' r := by
  obtain ⟨turns, m', s₁, hturns, hran, htold, hendings, hexecuted⟩ : ∃ turns m' s₁,
      outcome (takeAll (turn others evaluationId tenantId active c (fun n _ => stop n) before) ds.zipIdx) s =
        (turns, s₁) ∧ Went now (.of active c now stop ds.zipIdx) m s turns m' s₁ := turns_went h hnow
  unfold runTurns
  rw [hactive]
  change ∃ r m' s', outcome (takeAll (turn others evaluationId tenantId active c (fun n _ => stop n) before) ds.zipIdx >>=
    conclude evaluationId tenantId active start ds) s = (r, s') ∧ _
  rw [outcome_bind, hturns]
  cases turns with
  | error f =>
    refine ⟨.error f, m', s₁, rfl, hran, [], fun u hu => ⟨fun h => ?_, ?_⟩⟩
    · rw [← htold] at h
      cases h
    · rw [← htold]
      rfl
  | ok turns =>
    obtain ⟨r, s', ho, hafter, hreport⟩ : ∃ r s', outcome (conclude evaluationId tenantId active start ds turns) s₁ =
        (r, s') ∧ Ran now [] m' s₁ m' s' ∧ r.map reportOf = report active (endingsOf turns) (executedOf turns) :=
      conclude_reports hran.recording hid turns
    refine ⟨r, m', s', ho, by simpa using hran.append hafter, executedOf turns, fun u hu => ⟨fun _ => ?_, ?_⟩⟩
    · rw [Executes, ← hendings turns rfl u hu, ← evaluationsOf_eq]
      exact hexecuted turns rfl
    · rw [← htold, hreport, hendings turns rfl u hu]
      rfl

/-- The id of the run that is asked for next. -/
def runId (s : GateState) : Value :=
  .str (Ids.textOf .evaluation ((s.ids.bump .evaluation).count .evaluation))

/-- The gate when the turns of a run over so many dependencies begin. -/
def begun (s : GateState) (tenantId : Value) (n : Nat) : GateState :=
  { s with
    ids := s.ids.bump .evaluation
    events := s.events ++ [.evaluationStarted (runId s) tenantId n] }

theorem Recording.begun (h : Recording m s) (tenantId : Value) (n : Nat) : Recording m (begun s tenantId n) :=
  (h.bump .evaluation).publish _

/-- A run that can tell that it begins is its turns, with an event before them and another one after them. -/
theorem outcome_evaluateAll_begun (cancel : Cancellation)
    (h : outcome (publish (.evaluationStarted (runId s) tenantId ds.length)) { s with ids := s.ids.bump .evaluation } =
      (.ok ⟨⟩, begun s tenantId ds.length)) :
    outcome (evaluateAll others ds tenantId policies c cancel) s = outcome (do
      let r ← tryCatch (runTurns others (runId s) tenantId policies c cancel s.events.length s.now ds) fun f => do
        publish (.evaluationFailed (runId s) tenantId f.message)
        throw f
      publish (.evaluationCompleted (runId s) tenantId r.summary.violationsDetected
        r.summary.blockedDependencies r.skipped)
      return r) (begun s tenantId ds.length) := by
  rw [evaluateAll_eq, outcome_bind, show outcome (fresh .evaluation) s = _ from returns_fresh .evaluation s]
  dsimp only
  rw [outcome_bind, outcome_get]
  exact outcome_bind_ok h

/-- A gate without a log can tell that a run begins. -/
theorem outcome_evaluateAll (hl : s.logsEvents = false) (cancel : Cancellation) :
    outcome (evaluateAll others ds tenantId policies c cancel) s = outcome (do
      let r ← tryCatch (runTurns others (runId s) tenantId policies c cancel s.events.length s.now ds) fun f => do
        publish (.evaluationFailed (runId s) tenantId f.message)
        throw f
      publish (.evaluationCompleted (runId s) tenantId r.summary.violationsDetected
        r.summary.blockedDependencies r.skipped)
      return r) (begun s tenantId ds.length) :=
  outcome_evaluateAll_begun cancel (outcome_publish_unlogged _ hl)

/-- What a run does around its turns tells of no failure and leaves the violations alone. -/
theorem evaluateAll_of_runTurns {p : Plan} {F : Reading EnforcementResult → MemoryStore Violation → Prop}
    (h : Recording m s)
    (hrun : ∃ r m' s', outcome (runTurns others (runId s) tenantId policies c (fun n _ => stop n)
        s.events.length s.now ds) (begun s tenantId ds.length) = (r, s') ∧
      Ran now p m (begun s tenantId ds.length) m' s' ∧ F r m') :
    ∃ r m' s', outcome (evaluateAll others ds tenantId policies c fun n _ => stop n) s = (r, s') ∧
      Ran now p m s m' s' ∧ F r m' := by
  obtain ⟨r, m', s₁, ho, hran, hF⟩ := hrun
  have hstart : Ran now [] m s m (begun s tenantId ds.length) :=
    (h.begun tenantId ds.length).ran_nil rfl ⟨[_], rfl, by simp [Event.failure]⟩
  have hall := hstart.append hran
  rw [outcome_evaluateAll h.unlogged, outcome_bind, outcome_tryCatch, ho]
  cases r with
  | error f =>
    let failed : Event := .evaluationFailed (runId s) tenantId f.message
    refine ⟨.error f, m', { s₁ with events := s₁.events ++ [failed] }, ?_, ?_, hF⟩
    · dsimp only
      rw [outcome_bind, outcome_publish_unlogged _ hran.recording.unlogged]
      rfl
    · have hfailed : failed.failure = none := rfl
      simpa using hall.append (hran.recording.ran_publish hfailed)
  | ok r =>
    let completed : Event := .evaluationCompleted (runId s) tenantId r.summary.violationsDetected
      r.summary.blockedDependencies r.skipped
    refine ⟨.ok r, m', { s₁ with events := s₁.events ++ [completed] }, ?_, ?_, hF⟩
    · dsimp only
      rw [outcome_bind, outcome_publish_unlogged _ hran.recording.unlogged]
      rfl
    · have hcompleted : completed.failure = none := rfl
      simpa using hall.append (hran.recording.ran_publish hcompleted)

/-- A run over a batch goes as planned for it, and reports on the turns that it planned. -/
theorem evaluateAll_ran (others : Collaborators) (ds : List Dependency) (stop : Nat → Bool)
    (h : Recording m s) (hnow : evaluationTime c s = now)
    (hactive : Policy.active (policies.filter (·.tenantId.same tenantId)) = .ok active) :
    ∃ r m' s', outcome (evaluateAll others ds tenantId policies c fun n _ => stop n) s = (r, s') ∧
      Ran now (.of active c now stop ds.zipIdx) m s m' s' ∧ (Plan.of active c now stop ds.zipIdx).Reports active now m' r := by
  have hbegun : evaluationTime c (begun s tenantId ds.length) = now := hnow
  exact evaluateAll_of_runTurns h (runTurns_ran (h.begun tenantId ds.length) hbegun hactive rfl)

/-- A run whose policies cannot be put in order has no turns. -/
theorem evaluateAll_unordered (others : Collaborators) (ds : List Dependency) (c : EvaluationContext)
    (stop : Nat → Bool) (h : Recording m s) {f : Fault}
    (hf : Policy.active (policies.filter (·.tenantId.same tenantId)) = .error f) :
    ∃ m' s', outcome (evaluateAll others ds tenantId policies c fun n _ => stop n) s = (.error f, s') ∧
      Ran (evaluationTime c s) [] m s m' s' := by
  obtain ⟨r, m', s', ho, hran, rfl⟩ : ∃ r m' s',
      outcome (evaluateAll others ds tenantId policies c fun n _ => stop n) s = (r, s') ∧
        Ran (evaluationTime c s) [] m s m' s' ∧ r = .error f :=
    evaluateAll_of_runTurns h <| by
      refine ⟨.error f, m, _, ?_, (h.begun tenantId ds.length).ran_nil rfl ⟨[], by simp, by simp⟩, rfl⟩
      unfold runTurns
      simp only [liftM_eq_ofReading, hf, outcome_bind, outcome_ofReading]
  exact ⟨m', s', ho, hran⟩

end Runs

/-! ## Runs of a service -/

section Service

variable {s : GateState} {others : Collaborators} {ds : List Dependency} {tenantId : Value} {c : EvaluationContext}

/-- The stored policies of a tenant, those of the highest priority first. -/
def rankedOf (s : GateState) (tenantId : Value) : Reading (List Policy) := do
  sortDescending (·.priority) (← s.policies.ofTenant s.now tenantId)

theorem outcome_policiesOf (tenantId : Value) (s : GateState) :
    outcome (policiesOf tenantId) s = (rankedOf s tenantId, s) := by
  have hread : Shelf.policies.read s = s.policies := rfl
  unfold policiesOf rankedOf
  rw [outcome_bind, outcome_ofTenant, hread]
  cases s.policies.ofTenant s.now tenantId with
  | error f => rfl
  | ok stored => exact outcome_ofReading _ s

theorem outcome_evaluatePolicies (cancel : Cancellation) :
    outcome (evaluatePolicies others ds tenantId c cancel) s =
      match rankedOf s tenantId with
      | .error f => (.error f, s)
      | .ok ranked => outcome (evaluateAll others ds tenantId ranked c cancel) s := by
  have hpolicies := outcome_policiesOf tenantId s
  unfold evaluatePolicies
  cases hranked : rankedOf s tenantId with
  | error f =>
    rw [hranked] at hpolicies
    rw [outcome_bind_error hpolicies]
  | ok ranked =>
    rw [hranked] at hpolicies
    rw [outcome_bind_ok hpolicies]

/-- A run leaves the policies and the clock alone. -/
theorem rankedOf_evaluateAll (others : Collaborators) (ds : List Dependency) (policies : List Policy)
    (c : EvaluationContext) (cancel : Cancellation) :
    rankedOf (outcome (evaluateAll others ds tenantId policies c cancel) s).2 tenantId = rankedOf s tenantId := by
  have L : RunLaw fun t => t.policies = s.policies := {
    recorded := fun _ _ _ ht _ => ht
    numbered := fun _ _ ht => ht
    published := fun _ _ ht => ht
    called := fun _ _ ht => ht }
  have hrun : Yields (fun t => t.policies = s.policies ∧ t.now = s.now)
      (evaluateAll others ds tenantId policies c cancel) _ :=
    (L.timed s.now).yields_evaluateAll (R := fun _ _ _ => True) fun _ _ _ _ _ _ _ _ _ =>
      keeps_detect_of (fun _ _ ht => ht) (fun _ _ ht => ht) fun _ _ ht => ht
  obtain ⟨hpolicies, hnow⟩ := (hrun s ⟨rfl, rfl⟩).1
  unfold rankedOf
  rw [hpolicies, hnow]

end Service

end Gate
end SupplyGate
