import SupplyGate.Proofs.Gate.TwinFindings

/-!
# Actions of twins

What an action does depends on its configuration only as far as its document tells, and on the violation only by what
its document tells. So carrying out the actions of a finding agrees with carrying out those of the finding as its
document gives it, and the same is recorded about both.
-/

namespace SupplyGate

/-- A part that is left out of a document stands for nothing. -/
theorem ActionConfig.orElse_given (v w : Value) : (given v).orElse w = v.orElse w := by
  cases h : isGiven v with
  | true => rw [given_of_isGiven h]
  | false =>
    rw [given_of_not_isGiven h]
    unfold Value.orElse
    rw [truthy_of_not_isGiven h]
    rfl

theorem Event.ofViolation_asRead (v : Violation) : ofViolation v.asRead = ofViolation v := by
  unfold ofViolation
  rw [Violation.toDoc_asRead]
  rfl

theorem Reply.done_of_outcome {α : Type} {r : Reply α} {a : α} (h : r.outcome = .ok a) : r = .done a := by
  cases r with
  | done b =>
    cases h
    rfl
  | failed text kind => cases h
  | late => cases h

/-- Rows can hold the keys that the tracker gives. -/
def Collaborators.Storable (others : Collaborators) : Prop :=
  ∀ reply, others.tracker = some reply → ∀ n v, reply n = .done v → v.Storable

namespace Gate

section Actions

variable {others : Collaborators} {c : EvaluationContext} {v : Violation} {config : ActionConfig}

theorem agree_block (hconfig : config.toDoc.Storable) :
    Agree (Both Value.Storable) (block config v) (block config.asRead v.asRead) := by
  unfold block
  dsimp only
  rw [show config.asRead.blockingMessage.orElse _ = config.blockingMessage.orElse _ from ActionConfig.orElse_given ..]
  refine Agree.bind (agree_publish (by rfl)) fun _ _ _ => .pure ⟨rfl, ?_⟩
  have hmessage := ActionConfig.storable_orElse hconfig (e := ("blocking_message", config.blockingMessage)) (by simp [ActionConfig.parts])
    (.str "Policy violation")
  simpa using hmessage

theorem agree_warn (hconfig : config.toDoc.Storable) :
    Agree (Both Value.Storable) (warn config v) (warn config.asRead v.asRead) := by
  unfold warn
  dsimp only
  rw [show config.asRead.warningMessage.orElse _ = config.warningMessage.orElse _ from ActionConfig.orElse_given ..]
  refine Agree.bind (agree_publish (by rfl)) fun _ _ _ => .pure ⟨rfl, ?_⟩
  have hmessage := ActionConfig.storable_orElse hconfig (e := ("warning_message", config.warningMessage)) (by simp [ActionConfig.parts])
    (.str "Policy violation detected")
  simpa using hmessage

theorem agree_log : Agree (Both Value.Storable) (log config v) (log config.asRead v.asRead) := by
  have hlevel : configuredText config.asRead.logLevel "WARN" = configuredText config.logLevel "WARN" := by
    unfold configuredText
    rw [show config.asRead.logLevel.orElse _ = config.logLevel.orElse _ from ActionConfig.orElse_given ..]
  unfold log
  rw [hlevel]
  refine (Agree.ofReading (F := fun level => configuredText config.logLevel "WARN" = .ok level) fun _ => id).bind fun level level' h => ?_
  obtain ⟨rfl, hlevel⟩ := h
  dsimp only
  split
  · next hunknown =>
    have hgiven : config.asRead.logLevel = config.logLevel := by
      refine ActionConfig.given_of_isGiven (Bool.not_eq_false _ ▸ fun hnot => ?_)
      -- nothing is configured, and the default is a level
      rw [configuredText, Value.orElse, ActionConfig.truthy_of_not_isGiven hnot] at hlevel
      cases hlevel
      exact absurd hunknown (by decide)
    rw [hgiven]
    exact Agree.bind (R := fun _ _ => False) .throw fun _ _ h => h.elim
  · refine Agree.bind (.ofReading (F := fun _ => True) fun _ _ => trivial) fun message message' h => ?_
    obtain ⟨rfl, -⟩ := h
    exact .bind (agree_publish (by rfl)) fun _ _ _ => .pure ⟨rfl, by simp⟩

theorem agree_askNotifier :
    Agree (Both fun _ => True) (askNotifier others config v) (askNotifier others config.asRead v.asRead) := by
  unfold askNotifier
  refine Agree.bind (agree_publish ?_) fun _ _ _ => ?_
  · simp only [Event.told, Event.payload, Event.parts, Event.ofViolation_asRead]
    rfl
  cases others.notifier with
  | none => exact .pure ⟨rfl, trivial⟩
  | some reply =>
    refine (agree_noteCall _).bind fun _ _ _ => Agree.get.bind fun s t hst => ?_
    rw [hst.calls]
    exact .pure ⟨rfl, trivial⟩

theorem agree_notify : Agree (Both Value.Storable) (notify others config v) (notify others config.asRead v.asRead) := by
  refine agree_askNotifier.bind fun answer answer' h => ?_
  obtain ⟨rfl, -⟩ := h
  exact (Agree.ofReading (F := fun _ => True) fun _ _ => trivial).bind fun _ _ h => .pure ⟨by rw [h.1]; rfl, by simp [notified]⟩

theorem agree_strategyOf {tenantId : Value} (h : tenantId.IsText) :
    Agree (Both fun _ => True) (strategyOf tenantId) (strategyOf tenantId) := by
  refine (agree_find twinned_strategies.mirrored h).bind fun o o' ho => .pure ⟨?_, trivial⟩
  rw [ho.1]
  cases o <;> rfl

theorem agree_autoFix (hv : v.Kept) : Agree (Both Value.Storable) (autoFix config v c) (autoFix config.asRead v.asRead c) := by
  have hstrategy : configuredText config.asRead.autoFixStrategy "UPDATE" = configuredText config.autoFixStrategy "UPDATE" := by
    unfold configuredText
    rw [show config.asRead.autoFixStrategy.orElse _ = config.autoFixStrategy.orElse _ from ActionConfig.orElse_given ..]
  unfold autoFix
  rw [hstrategy]
  refine (Agree.ofReading fun _ _ => trivial).bind fun strategy strategy' h => ?_
  obtain ⟨rfl, -⟩ := h
  refine (agree_strategyOf hv.tenantId).bind fun s s' h => ?_
  obtain ⟨rfl, -⟩ := h
  refine (Agree.ofReading fun _ _ => trivial).bind fun approving' approving h => ?_
  obtain ⟨rfl, -⟩ := h
  refine Agree.bind (agree_publish (by rfl)) fun _ _ _ => .pure ⟨rfl, ?_⟩
  have happroving : ((approving.map fun r => Scale.value r.condition).getD .null).Storable := by
    cases approving with
    | none => exact .null
    | some r => exact Value.storable_text _
  simp [happroving]

theorem agree_askTracker (hothers : others.Storable) (tracker : IssueTracker) (issue : Value) :
    Agree (Both fun answer => ∀ key, answer = .ok key → key.Storable)
      (askTracker others tracker issue) (askTracker others tracker issue) := by
  unfold askTracker
  cases hreply : others.tracker with
  | none =>
    refine .pure ⟨rfl, fun key hkey => ?_⟩
    cases hkey
    exact .null
  | some reply =>
    refine (agree_noteCall _).bind fun _ _ _ => Agree.get.bind fun s t hst => ?_
    rw [hst.calls]
    exact .pure ⟨rfl, fun key hkey => hothers reply hreply _ _ (Reply.done_of_outcome hkey)⟩

theorem agree_createIssue (hothers : others.Storable) (hconfig : config.toDoc.Storable) :
    Agree (Both Value.Storable) (createIssue others config v) (createIssue others config.asRead v.asRead) := by
  unfold createIssue
  rw [show config.asRead.issueTracker = config.issueTracker from rfl]
  cases htracker : config.issueTracker with
  | none => exact .throw
  | some tracker =>
    have hstorable := ActionConfig.storable_part hconfig (e := ("issue_tracker", tracker.toDoc)) (by simp [ActionConfig.parts, htracker]) rfl
    simp only [IssueTracker.toDoc, Value.storable_fields, List.forall_mem_cons] at hstorable
    dsimp only
    refine Agree.bind (.ofReading (F := fun _ => True) fun _ _ => trivial) fun issue issue' h => ?_
    obtain ⟨rfl, -⟩ := h
    refine (agree_askTracker hothers tracker issue').bind fun answer answer' h => ?_
    obtain ⟨rfl, hanswer⟩ := h
    refine Agree.bind (.ofReading hanswer) fun key key' h => ?_
    obtain ⟨rfl, hkey⟩ := h
    exact Agree.bind (agree_publish (by rfl)) fun _ _ _ => .pure ⟨rfl, by simp [hkey, hstorable.2.1]⟩

theorem agree_escalate (hconfig : config.toDoc.Storable) :
    Agree (Both Value.Storable) (escalate config v) (escalate config.asRead v.asRead) := by
  unfold escalate
  dsimp only
  rw [show config.asRead.escalationLevel.orElse _ = config.escalationLevel.orElse _ from ActionConfig.orElse_given ..]
  refine agree_clock.bind fun now now' h => ?_
  obtain ⟨rfl, -⟩ := h
  refine Agree.bind (agree_publish ?_) fun _ _ _ => .pure ⟨rfl, ?_⟩
  · simp only [Event.told, Event.payload, Event.parts, Event.ofViolation_asRead]
    rfl
  · have hlevel := ActionConfig.storable_orElse hconfig (e := ("escalation_level", config.escalationLevel)) (by simp [ActionConfig.parts])
      (.int 1)
    simpa using hlevel

/-- An action is carried out alike, as it is and as its document gives it. -/
theorem agree_perform (hothers : others.Storable) (hv : v.Kept) {a : RuleAction} (ha : a.toDoc.Storable) :
    Agree (Both Value.Storable) (perform others v c a) (perform others v.asRead c a.asRead) := by
  have hconfig : a.config.toDoc.Storable := by
    simp only [RuleAction.toDoc, Value.storable_fields, List.forall_mem_cons] at ha
    exact ha.2.2.1
  unfold perform
  rw [show a.asRead.type = a.type from rfl]
  cases (Scale.ofText? a.type : Option ActionType) with
  | none => exact .throw
  | some type =>
    cases type with
    | block => exact agree_block hconfig
    | warn => exact agree_warn hconfig
    | log => exact agree_log
    | notify => exact agree_notify
    | autoFix => exact agree_autoFix hv
    | createIssue => exact agree_createIssue hothers hconfig
    | escalate => exact agree_escalate hconfig

/-- What is recorded about an action is recorded alike. -/
theorem agree_runAction (hothers : others.Storable) (hv : v.Kept) {a : RuleAction} (ha : a.toDoc.Storable) :
    Agree (Both ExecutedAction.Kept) (runAction others v c a) (runAction others v.asRead c a.asRead) := by
  obtain ⟨id, hid⟩ := hv.id
  have hrecord {now now' : Timestamp} (h : Both Timestamp.Fixed now now') {status : ActionStatus} {result result' error : Value}
      (hresult : Both Value.Storable result result') (herror : error.Storable) :
      Both ExecutedAction.Kept
        { violationId := v.id, type := .str a.type, status, result, error, executedAt := some now, duration := .float 0.0 }
        { violationId := v.asRead.id, type := .str a.asRead.type, status, result := result', error, executedAt := some now'
          duration := .float 0.0 } := by
    obtain ⟨rfl, hnow⟩ := h
    obtain ⟨rfl, hresult⟩ := hresult
    refine ⟨rfl, fun t ht => Option.some.inj ht ▸ hnow, ?_⟩
    simp [ExecutedAction.toDoc, hid, hresult, herror, Timestamp.toDoc]
  unfold runAction
  refine .tryCatch ?_ fun f => ?_
  · exact (agree_perform hothers hv ha).bind fun result result' hresult =>
      agree_clock.bind fun now now' hnow => .pure (hrecord hnow hresult .null)
  · exact agree_clock.bind fun now now' hnow => .pure (hrecord hnow ⟨rfl, .null⟩ (.str _))

/-- **The actions of a finding** are carried out alike, for the finding as it is and as its document gives it. -/
theorem agree_execute (hothers : others.Storable) (hv : v.Kept) :
    Agree (Both fun executed => ∀ a ∈ executed, a.Kept) (execute others c v) (execute others c v.asRead) := by
  have hactions : ∀ a ∈ v.details.rule.enabledActions, a.toDoc.Storable := fun a ha =>
    (Rule.writes_iff.mp hv.details.rule.writes).2.2.2.2.2.2.2.2 a (List.mem_of_mem_filter ha)
  unfold execute
  rw [show v.asRead.details.rule.enabledActions = _ from v.details.rule.enabledActions_asRead]
  refine .mapM_both (forall₂_graph.mpr ⟨rfl, hactions⟩) fun a a' h => ?_
  obtain ⟨rfl, ha⟩ := h
  exact agree_runAction hothers hv ha

end Actions

end Gate

end SupplyGate
