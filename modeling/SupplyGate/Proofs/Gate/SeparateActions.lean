import SupplyGate.Proofs.Gate.Parallel
import SupplyGate.Proofs.Sample

/-!
# Actions on their own

Every action of a finding is carried out whatever becomes of the others. One that succeeds publishes one event, of
its own kind, and one that fails publishes none, but for a notification, which is told before it is delivered
(`RuleAction.Ends`). What an action does goes by nothing that the actions before it have left but the number of
calls to the collaborators, so carrying out two lists of actions one after the other is the same as carrying out
each of them alone (`actions_separate`).
-/

namespace SupplyGate

open Gate

/-- The name of the event that tells of an action. -/
def ActionType.eventName : ActionType → String
  | .block => "dependencyBlocked"
  | .warn => "dependencyWarning"
  | .log => "policyViolationLogged"
  | .notify => "policyViolationNotification"
  | .autoFix => "autoFixTriggered"
  | .createIssue => "issueCreated"
  | .escalate => "violationEscalated"

/-- How an action for a violation ends, with the events and calls that it leaves: it is done and has told so by one
event of its kind; or it is refused, with nothing told and no call of the notifier; or it is a notification that
was told and then not delivered. -/
inductive RuleAction.Ends (others : Collaborators) (v : Violation) (a : RuleAction) : Trace Value where
  | done {type : ActionType} {result : Value} {e : Event} {calls : List CollaboratorCall}
    (known : Scale.ofText? a.type = some type) (told : e.name = type.eventName) (given : result ≠ .null) :
    Ends others v a (.ok result) [e] calls
  | refused {f : Fault} {calls : List CollaboratorCall} (uncalled : notifierCalls calls = 0) :
    Ends others v a (.error f) [] calls
  | undelivered {f : Fault} {reply : Nat → Reply Unit} {n : Nat} (known : Scale.ofText? a.type = some ActionType.notify)
    (has : others.notifier = some reply) (fails : (reply n).outcome = .error f) :
    Ends others v a (.error f) [.notificationSent v a.config.channels a.config.recipients]
      [.notify a.config.channels a.config.recipients v.id]

/-- What is recorded about an action, given how it ended. -/
inductive RuleAction.Reports (others : Collaborators) (v : Violation) (a : RuleAction) (x : Share ExecutedAction) :
    Prop where
  | succeeded (ends : a.Ends others v (.ok x.result.result) x.events x.calls) (status : x.result.status = .success)
    (error : x.result.error = .null)
  | failed {f : Fault} (ends : a.Ends others v (.error f) x.events x.calls) (status : x.result.status = .failed)
    (result : x.result.result = .null) (error : x.result.error = .str (failureText others a f))

/-- The record of an action, with the events and calls that it left. -/
structure RuleAction.Recorded (others : Collaborators) (v : Violation) (a : RuleAction) (x : Share ExecutedAction) :
    Prop where
  violationId : x.result.violationId = v.id
  type : x.result.type = .str a.type
  reports : a.Reports others v x

/-- An action is recorded, or ends with a fault that is yet to be recorded. -/
inductive RuleAction.Attempted (others : Collaborators) (v : Violation) (a : RuleAction) : Trace ExecutedAction where
  | recorded {x : ExecutedAction} {es : List Event} {cs : List CollaboratorCall}
    (recorded : a.Recorded others v ⟨x, es, cs⟩) : Attempted others v a (.ok x) es cs
  | faulted {f : Fault} {es : List Event} {cs : List CollaboratorCall} (ends : a.Ends others v (.error f) es cs) :
    Attempted others v a (.error f) es cs

/-- An action has failed just when its record has no result and has an error. -/
theorem RuleAction.Reports.failed_iff {others : Collaborators} {v : Violation} {a : RuleAction} {x : Share ExecutedAction}
    (h : a.Reports others v x) : x.result.status = .failed ↔ x.result.result = .null ∧ x.result.error ≠ .null := by
  cases h with
  | succeeded _ hstatus herror => simp [hstatus, herror]
  | failed _ hstatus hresult herror => simp [hstatus, hresult, herror]

/-- What asking the notifier leaves: the event that tells of it, and the call with the answer to it where there is a
notifier; nothing if the log refuses the event. -/
inductive Notified (others : Collaborators) (v : Violation) (config : ActionConfig) : Trace (Reading Bool) where
  | refused {f : Fault} : Notified others v config (.error f) [] []
  | unasked : Notified others v config (.ok (.ok false)) [.notificationSent v config.channels config.recipients] []
  | asked {reply : Nat → Reply Unit} (has : others.notifier = some reply) (n : Nat) :
    Notified others v config (.ok (do (reply n).outcome; return true))
      [.notificationSent v config.channels config.recipients] [.notify config.channels config.recipients v.id]

/-- The collaborators as they answer once they have had some calls. -/
def Collaborators.after (others : Collaborators) (calls : List CollaboratorCall) : Collaborators :=
  others.later (notifierCalls calls) (trackerCalls calls)

namespace Gate

/-- Carry out some actions for a violation, in order. -/
def executeEach (others : Collaborators) (c : EvaluationContext) (v : Violation) (as : List RuleAction) :
    Gate (List ExecutedAction) :=
  as.mapM (runAction others v c)

section Handlers

variable {others : Collaborators} {v : Violation} {c : EvaluationContext} {a : RuleAction} {actions : List RuleAction}
  {k l : Nat} {type : ActionType}

/-- An event of its kind is published last, and there is a result. -/
theorem parallel_tell (calls : List CollaboratorCall) (e : Violation → Event) {result : Value}
    (hknown : Scale.ofText? a.type = some type)
    (habout : (e v).about (v.withActions actions) = e (v.withActions actions)) (htold : (e v).name = type.eventName)
    (hresult : result ≠ .null) (hcalls : notifierCalls calls = 0) :
    Parallel v actions k l (do publish (e v); return result) (do publish (e (v.withActions actions)); return result)
      fun r es cs => a.Ends others v r es (calls ++ cs) := by
  refine Parallel.bind (Parallel.publish habout) ?_ ?_
  · rintro _ _ _ ⟨⟩
    exact .pure (.done hknown htold hresult)
  · rintro f _ _ ⟨⟩
    rw [List.append_nil]
    exact .refused hcalls

theorem parallel_block (h : Scale.ofText? a.type = some ActionType.block) :
    Parallel v actions k l (block a.config v) (block a.config (v.withActions actions)) (a.Ends others v) :=
  parallel_tell [] (fun v => .dependencyBlocked v _) h rfl rfl nofun rfl

theorem parallel_warn (h : Scale.ofText? a.type = some ActionType.warn) :
    Parallel v actions k l (warn a.config v) (warn a.config (v.withActions actions)) (a.Ends others v) :=
  parallel_tell [] (fun v => .dependencyWarned v _) h rfl rfl nofun rfl

theorem parallel_log (h : Scale.ofText? a.type = some ActionType.log) :
    Parallel v actions k l (log a.config v) (log a.config (v.withActions actions)) (a.Ends others v) := by
  refine Parallel.after (.ofReading ⟨rfl, rfl⟩) (fun level => ?_) fun _ => .refused rfl
  dsimp only
  split
  · refine .after (.throw ⟨rfl, rfl⟩) (fun _ => ?_) fun _ => .refused rfl
    refine Parallel.after (.ofReading ⟨rfl, rfl⟩) (fun text => ?_) fun _ => .refused rfl
    exact parallel_tell [] (fun v => .violationLogged v.tenantId v.id level _) h rfl rfl nofun rfl
  · refine Parallel.after (.ofReading ⟨rfl, rfl⟩) (fun text => ?_) fun _ => .refused rfl
    exact parallel_tell [] (fun v => .violationLogged v.tenantId v.id level _) h rfl rfl nofun rfl

theorem parallel_autoFix (h : Scale.ofText? a.type = some ActionType.autoFix) :
    Parallel v actions k l (autoFix a.config v c) (autoFix a.config (v.withActions actions) c) (a.Ends others v) := by
  refine Parallel.after (.ofReading ⟨rfl, rfl⟩) (fun strategy => ?_) fun _ => .refused rfl
  refine Parallel.after (.strategyOf fun _ => ⟨rfl, rfl⟩) (fun u => ?_) fun _ => .refused rfl
  refine Parallel.after (.ofReading ⟨rfl, rfl⟩) (fun approving => ?_) fun _ => .refused rfl
  exact parallel_tell [] (fun v => .autoFixTriggered v strategy approving.isNone) h rfl rfl nofun rfl

theorem parallel_escalate (h : Scale.ofText? a.type = some ActionType.escalate) :
    Parallel v actions k l (escalate a.config v) (escalate a.config (v.withActions actions)) (a.Ends others v) :=
  Parallel.clock_bind fun now => parallel_tell [] (fun v => .escalated v _ now) h rfl rfl nofun rfl

/-- A call, and the answer to it, which goes by the number of calls before. -/
theorem parallel_call {α : Type} {call : CollaboratorCall} (count : GateState → Nat) {d : Nat} {f : Nat → α}
    {Q : Trace α} (hcount : ∀ s t, Ahead v actions k l s t → count t = count s + d)
    (h : ∀ n, Q (.ok (f (n + d))) [] [call]) :
    Parallel v actions k l (do noteCall call; return f (count (← get) + d))
      (do noteCall call; return f (count (← get))) Q := by
  refine Parallel.bind (P := fun r es cs => r = .ok () ∧ es = [] ∧ cs = [call]) (.noteCall ⟨rfl, rfl, rfl⟩) ?_ ?_
  · rintro _ _ _ ⟨-, rfl, rfl⟩
    refine Parallel.get_bind fun s t hst => ?_
    rw [hcount s t hst]
    exact .pure (h _)
  · rintro e _ _ ⟨⟨⟩, _⟩

theorem parallel_askNotifier (config : ActionConfig) :
    Parallel v actions k l (askNotifier (others.later k l) config v) (askNotifier others config (v.withActions actions))
      (Notified (others.later k l) v config) := by
  unfold askNotifier
  refine Parallel.bind (Parallel.publish (e := fun v => .notificationSent v config.channels config.recipients) rfl) ?_ ?_
  · rintro _ _ _ ⟨⟩
    cases hnotifier : others.notifier with
    | none =>
      have hlater : (others.later k l).notifier = none := by
        simp only [Collaborators.later, hnotifier, Option.map_none]
      rw [hlater]
      exact .pure .unasked
    | some reply =>
      have hlater : (others.later k l).notifier = some fun n => reply (n + k) := by
        simp only [Collaborators.later, hnotifier, Option.map_some]
      rw [hlater]
      exact parallel_call (f := fun n => do (reply n).outcome; return true) (fun s => notifierCalls s.calls)
        (Q := fun r es cs => Notified _ v config r (_ ++ es) ([] ++ cs)) (fun s t hst => hst.notified)
        fun n => .asked hlater n
  · rintro f _ _ ⟨⟩
    exact .refused

theorem parallel_notify (h : Scale.ofText? a.type = some ActionType.notify) :
    Parallel v actions k l (notify (others.later k l) a.config v) (notify others a.config (v.withActions actions))
      (a.Ends (others.later k l) v) := by
  refine (parallel_askNotifier a.config).bind ?_ ?_
  · intro answer es cs hasked
    cases hasked with
    | unasked => exact .pure (.done h rfl nofun)
    | @asked reply has n =>
      cases ho : (reply n).outcome with
      | ok _ => exact .pure (.done h rfl nofun)
      | error f => exact .throw (.undelivered h has ho)
  · rintro f _ _ ⟨⟩
    exact .refused rfl

theorem parallel_askTracker (tracker : IssueTracker) (issue : Value) :
    Parallel v actions k l (askTracker (others.later k l) tracker issue) (askTracker others tracker issue)
      fun r es cs => (∃ answer, r = .ok answer) ∧ es = [] ∧ notifierCalls cs = 0 := by
  unfold askTracker
  cases htracker : others.tracker with
  | none =>
    have hlater : (others.later k l).tracker = none := by
      simp only [Collaborators.later, htracker, Option.map_none]
    rw [hlater]
    exact .pure ⟨⟨_, rfl⟩, rfl, rfl⟩
  | some reply =>
    have hlater : (others.later k l).tracker = some fun n => reply (n + l) := by
      simp only [Collaborators.later, htracker, Option.map_some]
    rw [hlater]
    exact parallel_call (f := fun n => (reply n).outcome) (fun s => trackerCalls s.calls)
      (fun s t hst => hst.opened) fun n => ⟨⟨_, rfl⟩, rfl, rfl⟩

theorem parallel_createIssue (h : Scale.ofText? a.type = some ActionType.createIssue) :
    Parallel v actions k l (createIssue (others.later k l) a.config v) (createIssue others a.config (v.withActions actions))
      (a.Ends (others.later k l) v) := by
  unfold createIssue
  cases a.config.issueTracker with
  | none => exact .throw (.refused rfl)
  | some tracker =>
    refine Parallel.after (.ofReading ⟨rfl, rfl⟩) (fun issue => ?_) fun _ => .refused rfl
    refine (parallel_askTracker tracker issue).bind ?_ ?_
    · rintro answer es calls ⟨-, rfl, hcalls⟩
      refine Parallel.after (.ofReading ⟨rfl, rfl⟩) (fun key => ?_) fun _ => ?_
      · have hresult : Value.fields [("issue_created", .bool true), ("tracker", tracker.system), ("issue_key", key)] ≠ .null :=
          nofun
        exact parallel_tell calls (fun v => .issueCreated v tracker.system tracker.project issue key) h rfl rfl hresult hcalls
      · exact .refused (by rwa [List.append_nil])
    · rintro f _ _ ⟨⟨_, ⟨⟩⟩, _⟩

theorem parallel_perform (a : RuleAction) :
    Parallel v actions k l (perform (others.later k l) v c a) (perform others (v.withActions actions) c a)
      (a.Ends (others.later k l) v) := by
  unfold perform
  cases h : (Scale.ofText? a.type : Option ActionType) with
  | none => exact .throw (.refused rfl)
  | some type =>
    cases type with
    | block => exact parallel_block h
    | warn => exact parallel_warn h
    | log => exact parallel_log h
    | notify => exact parallel_notify h
    | autoFix => exact parallel_autoFix h
    | createIssue => exact parallel_createIssue h
    | escalate => exact parallel_escalate h

end Handlers

section Lists

variable {others : Collaborators} {v : Violation} {c : EvaluationContext} {actions : List RuleAction} {k l : Nat}

theorem failureText_later (a : RuleAction) (f : Fault) : failureText (others.later k l) a f = failureText others a f := by
  cases f <;> rfl

theorem parallel_runAction (a : RuleAction) :
    Parallel v actions k l (runAction (others.later k l) v c a) (runAction others (v.withActions actions) c a)
      fun r es cs => ∃ x, r = .ok x ∧ a.Recorded (others.later k l) v ⟨x, es, cs⟩ := by
  refine Parallel.tryCatch (P := a.Attempted (others.later k l) v) ?_ ?_ ?_
  · refine (parallel_perform a).bind (fun result es cs hends => ?_) fun f es cs hends => .faulted hends
    refine Parallel.clock_bind fun now => .pure ?_
    rw [List.append_nil, List.append_nil]
    exact .recorded ⟨rfl, rfl, .succeeded hends rfl rfl⟩
  · rintro x es cs ⟨hrecorded⟩
    exact ⟨x, rfl, hrecorded⟩
  · intro f es cs hattempted
    cases hattempted with
    | faulted hends =>
      rw [failureText_later]
      refine Parallel.clock_bind fun now => .pure ⟨_, rfl, ?_⟩
      rw [List.append_nil, List.append_nil]
      exact ⟨rfl, rfl, .failed hends rfl rfl (by simp only [actionRecord, failureText_later])⟩

variable (others v c actions k l) in
theorem parallel_executeEach (as : List RuleAction) :
    Parallel v actions k l (executeEach (others.later k l) c v as) (executeEach others c (v.withActions actions) as)
      fun r es cs => ∃ xs : List (Share ExecutedAction), List.Forall₂ (RuleAction.Recorded (others.later k l) v) as xs ∧
        r = .ok (xs.map (·.result)) ∧ es = xs.flatMap (·.events) ∧ cs = xs.flatMap (·.calls) :=
  Parallel.mapM fun a _ => parallel_runAction a

theorem Ahead.refl {s : GateState} (h : s.logsEvents = true → v.withActions actions = v) : Ahead v actions 0 0 s s :=
  ⟨rfl, rfl, rfl, h⟩

/-- After events and calls that were added, a gate is ahead by the calls. -/
theorem ahead_also {s : GateState} (h : s.logsEvents = true → v.withActions actions = v) (es : List Event)
    (cs : List CollaboratorCall) : Ahead v actions (notifierCalls cs) (trackerCalls cs) s (s.also es cs) where
  eq := rfl
  notified := by simp [GateState.also, notifierCalls]
  opened := by simp [GateState.also, trackerCalls]
  logged := h

/-- What carrying out some actions leaves. -/
theorem outcome_executeEach (others : Collaborators) (c : EvaluationContext) (v : Violation) (as : List RuleAction)
    (s : GateState) : ∃ xs : List (Share ExecutedAction), List.Forall₂ (RuleAction.Recorded others v) as xs ∧
      outcome (executeEach others c v as) s =
        (.ok (xs.map (·.result)), s.also (xs.flatMap (·.events)) (xs.flatMap (·.calls))) := by
  have hparallel := parallel_executeEach others v c v.details.rule.actions 0 0 as
  obtain ⟨_, _, _, hx, -, xs, hxs, rfl, rfl, rfl⟩ := hparallel s s (.refl fun _ => rfl)
  rw [Collaborators.later_zero] at hx hxs
  exact ⟨xs, hxs, hx⟩

/-- The events that tell of actions for a violation carry that violation. -/
theorem about_self {s : GateState} {as : List RuleAction} {records : List ExecutedAction} {es : List Event}
    {cs : List CollaboratorCall} (h : outcome (executeEach others c v as) s = (.ok records, s.also es cs)) :
    es.map (Event.about v) = es := by
  have hparallel := parallel_executeEach others v c v.details.rule.actions 0 0 as
  obtain ⟨r, es', cs', hx, hy, -⟩ := hparallel s s (.refl fun _ => rfl)
  rw [Collaborators.later_zero] at hx
  have hfirst : es' = es := by
    have hstate := (Prod.mk.inj (hx.symm.trans h)).2
    exact List.append_cancel_left (congrArg GateState.events hstate)
  have hsecond : es'.map (Event.about v) = es := by
    have hstate := (Prod.mk.inj (hy.symm.trans h)).2
    exact List.append_cancel_left (congrArg GateState.events hstate)
  rw [← hfirst, hsecond, hfirst]

/-- Carrying out two lists of actions is carrying out each of them alone, where the rule of the violation has other
actions each time. -/
theorem outcome_executeEach_append (others : Collaborators) (c : EvaluationContext) (s : GateState)
    {first second both : List RuleAction} (as bs : List RuleAction)
    (hfirst : s.logsEvents = true → v.withActions both = v.withActions first)
    (hsecond : s.logsEvents = true → v.withActions both = v.withActions second) :
    ∃ ra ea ca rb eb cb, outcome (executeEach others c (v.withActions first) as) s = (.ok ra, s.also ea ca) ∧
      outcome (executeEach (others.after ca) c (v.withActions second) bs) s = (.ok rb, s.also eb cb) ∧
      outcome (executeEach others c (v.withActions both) (as ++ bs)) s =
        (.ok (ra ++ rb), s.also ((ea ++ eb).map (Event.about (v.withActions both))) (ca ++ cb)) := by
  have has := parallel_executeEach others (v.withActions first) c both 0 0 as
  obtain ⟨_, ea, ca, hx, hy, xs, -, rfl, -⟩ := has s s (.refl hfirst)
  rw [Collaborators.later_zero] at hx
  have hbs := parallel_executeEach others (v.withActions second) c both (notifierCalls ca) (trackerCalls ca) bs
  obtain ⟨_, eb, cb, hx', hy', ys, -, rfl, -⟩ := hbs s _ (ahead_also hsecond (ea.map (Event.about (v.withActions both))) ca)
  refine ⟨_, ea, ca, _, eb, cb, hx, hx', ?_⟩
  have hboth : executeEach others c (v.withActions both) (as ++ bs) = (do
      let ra ← executeEach others c (v.withActions both) as
      let rb ← executeEach others c (v.withActions both) bs
      return ra ++ rb) := List.mapM_append
  rw [hboth]
  refine (outcome_bind_ok hy).trans ((outcome_bind_ok hy').trans ?_)
  rw [outcome_pure, GateState.also_also, List.map_append]
  rfl

end Lists

/-- **Actions are carried out each on its own.** Carrying out the actions of a violation gives one record for each
enabled action, in order; and whatever fails, carrying out a list of actions and then another one gives the records,
events and calls of each list alone, where collaborators answer each call as they do in the run over both. The lists
are carried out for one violation, or for violations whose rules have just these actions; then events carry the
violation that they are about, and the log, which might refuse one violation and not the other, is left out. -/
theorem actions_separate (others : Collaborators) (c : EvaluationContext) (v : Violation) (s : GateState) :
    (∃ xs : List (Share ExecutedAction), outcome (execute others c v) s =
        (.ok (xs.map (·.result)), s.also (xs.flatMap (·.events)) (xs.flatMap (·.calls))) ∧
      List.Forall₂ (fun a x => a.Recorded others v x ∧
        (x.result.status = .failed ↔ x.result.result = .null ∧ x.result.error ≠ .null)) v.details.rule.enabledActions xs) ∧
    (∀ as bs, ∃ ra ea ca rb eb cb, outcome (executeEach others c v as) s = (.ok ra, s.also ea ca) ∧
      outcome (executeEach (others.after ca) c v bs) s = (.ok rb, s.also eb cb) ∧
      outcome (executeEach others c v (as ++ bs)) s = (.ok (ra ++ rb), s.also (ea ++ eb) (ca ++ cb))) ∧
    ∀ as bs, s.logsEvents = false → ∃ ra ea ca rb eb cb,
      outcome (execute others c (v.withActions as)) s = (.ok ra, s.also ea ca) ∧
      outcome (execute (others.after ca) c (v.withActions bs)) s = (.ok rb, s.also eb cb) ∧
      outcome (execute others c (v.withActions (as ++ bs))) s =
        (.ok (ra ++ rb), s.also ((ea ++ eb).map (Event.about (v.withActions (as ++ bs)))) (ca ++ cb)) := by
  refine ⟨?_, fun as bs => ?_, fun as bs hl => ?_⟩
  · obtain ⟨xs, hxs, hx⟩ := outcome_executeEach others c v v.details.rule.enabledActions s
    exact ⟨xs, hx, hxs.imp fun a x h => ⟨h, h.reports.failed_iff⟩⟩
  · have own : v.withActions v.details.rule.actions = v := rfl
    obtain ⟨ra, ea, ca, rb, eb, cb, ha, hb, hboth⟩ :=
      outcome_executeEach_append others c s as bs (fun _ => own) fun _ => own
    rw [own] at ha hb hboth
    rw [List.map_append, about_self ha, about_self hb] at hboth
    exact ⟨ra, ea, ca, rb, eb, cb, ha, hb, hboth⟩
  · have henabled : (v.withActions (as ++ bs)).details.rule.enabledActions =
        (v.withActions as).details.rule.enabledActions ++ (v.withActions bs).details.rule.enabledActions :=
      List.filter_append ..
    unfold execute
    rw [henabled]
    exact outcome_executeEach_append others c s _ _ (fun h => nomatch hl.symm.trans h) fun h => nomatch hl.symm.trans h

section Sample

open Sample

/-- A finding of a rule without actions. -/
def idle : Violation :=
  Finding.violationOf (policy "t" "p" [] []) (rule "r" (absent "x")) (dependency "a") ⟨true, [absent "x"], []⟩ .empty moment
    .other "v" ⟨[], "", "", [], none, "MEDIUM"⟩

/-- A notifier that never answers. -/
def deaf : Collaborators := { Collaborators.none with notifier := some fun _ => .late }

/-- A notification that is not delivered and an action of no known type change nothing for a warning after them. -/
theorem actions_separate_deaf : gate.logsEvents = false ∧ ∃ ra ea ca rb eb cb,
    outcome (execute deaf .empty (idle.withActions [.of .notify .empty, ⟨"FLY", .empty, .bool true⟩])) gate =
      (.ok ra, gate.also ea ca) ∧
    outcome (execute (deaf.after ca) .empty (idle.withActions [.of .warn .empty])) gate = (.ok rb, gate.also eb cb) ∧
    outcome (execute deaf .empty (idle.withActions [.of .notify .empty, ⟨"FLY", .empty, .bool true⟩, .of .warn .empty])) gate =
      (.ok (ra ++ rb), gate.also ((ea ++ eb).map (Event.about (idle.withActions
        [.of .notify .empty, ⟨"FLY", .empty, .bool true⟩, .of .warn .empty]))) (ca ++ cb)) :=
  ⟨rfl, (actions_separate deaf .empty idle gate).2.2 [.of .notify .empty, ⟨"FLY", .empty, .bool true⟩]
    [.of .warn .empty] rfl⟩

end Sample

end Gate
end SupplyGate
