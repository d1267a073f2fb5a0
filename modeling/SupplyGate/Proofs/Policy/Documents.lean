import SupplyGate.Policy.Basic
import SupplyGate.Proofs.Inventory.Documents

/-!
# Documents of policies

A policy that was read from a document is read again from its own document, up to what a rule does not say: a
condition that joins with nothing, and a part of an action's configuration that is an empty list, are left out of
the document and come back as null (`Policy.asRead`).
-/

namespace SupplyGate

instance : Scale.Faithful ExceptionStatus := ⟨fun a => by cases a <;> rfl⟩
instance : Scale.Capital ExceptionStatus := ⟨fun a => by cases a <;> rfl⟩
instance : Scale.Faithful EnforcementMode := ⟨fun a => by cases a <;> rfl⟩
instance : Scale.Capital EnforcementMode := ⟨fun a => by cases a <;> rfl⟩
instance : Scale.Capital ActionType := ⟨fun a => by cases a <;> rfl⟩

/-- A text that was read in upper case is in upper case. -/
theorem Value.upper_of_upperText {v : Value} {s : String} (h : v.upperText = .ok s) : Text.upper s = s := by
  obtain ⟨text, -, rfl⟩ := Reading.map_eq_ok.mp h
  exact Text.upper_upper text

/-! ## Conditions -/

namespace Condition

/-- The condition as its document gives it. -/
def asRead (c : Condition) : Condition := { c with joinNext := if c.joinNext.truthy then c.joinNext else .null }

theorem toDoc_asRead (c : Condition) : c.asRead.toDoc = c.toDoc := by
  unfold toDoc asRead
  dsimp only
  cases h : c.joinNext.truthy with
  | true => simp [h]
  | false => rfl

theorem ofDoc_toDoc (c : Condition) : ofDoc c.toDoc = .ok c.asRead := by
  unfold toDoc asRead
  cases h : c.joinNext.truthy with
  | true => simp [ofDoc, List.lookup_cons, Reading.ok_bind]
  | false => simp [ofDoc, List.lookup_cons, Reading.ok_bind]

end Condition

/-! ## Actions -/

theorem IssueTracker.ofDoc_toDoc (t : IssueTracker) : ofDoc t.toDoc = .ok t := by
  simp [ofDoc, toDoc, List.lookup_cons, Reading.ok_bind]

namespace ActionConfig

/-- A part of a configuration as a document gives it. -/
def given (v : Value) : Value := if isGiven v then v else .null

/-- The configuration as its document gives it. -/
def asRead (c : ActionConfig) : ActionConfig where
  blockingMessage := given c.blockingMessage
  warningMessage := given c.warningMessage
  logLevel := given c.logLevel
  channels := c.channels
  recipients := c.recipients
  escalationLevel := given c.escalationLevel
  autoFixStrategy := given c.autoFixStrategy
  issueTracker := c.issueTracker

theorem given_of_isGiven {v : Value} (h : isGiven v = true) : given v = v := if_pos h

theorem given_of_not_isGiven {v : Value} (h : isGiven v = false) : given v = .null := if_neg (by simp [h])

/-- What is left of some fields says under a key. -/
theorem getD_lookup_given (es : List (String × Value)) (hkeys : (es.map (·.1)).Nodup) (key : String) :
    ((es.filter fun e => isGiven e.2).lookup key).getD .null = given ((es.lookup key).getD .null) := by
  rw [Value.lookup_filter isGiven hkeys]
  cases es.lookup key with
  | none => rfl
  | some v =>
    cases h : isGiven v with
    | true =>
      rw [Option.filter_some_pos h]
      exact (given_of_isGiven h).symm
    | false =>
      rw [Option.filter_some_neg (by simp [h])]
      exact (given_of_not_isGiven h).symm

/-- A field is left out as it is, or as a document gives it. -/
theorem filter_given_cons (key : String) (v : Value) (es : List (String × Value)) :
    (((key, given v) :: es).filter fun e => isGiven e.2) = ((key, v) :: es).filter fun e => isGiven e.2 := by
  cases h : isGiven v with
  | true => rw [given_of_isGiven h]
  | false =>
    rw [given_of_not_isGiven h, List.filter_cons, List.filter_cons, h]
    rfl

theorem asListOrEmpty_given (items : List Value) : (given (.list items)).asListOrEmpty = .ok items := by
  cases items <;> rfl

theorem ofDoc_toDoc (c : ActionConfig) : ofDoc c.toDoc = .ok c.asRead := by
  have hfields := getD_lookup_given [
    ("blocking_message", c.blockingMessage),
    ("warning_message", c.warningMessage),
    ("log_level", c.logLevel),
    ("notification_channels", .list c.channels),
    ("recipients", .list c.recipients),
    ("escalation_level", c.escalationLevel),
    ("auto_fix_strategy", c.autoFixStrategy),
    ("issue_tracker", (c.issueTracker.map IssueTracker.toDoc).getD .null)] (by simp [List.nodup_cons])
  unfold ofDoc toDoc
  simp only [Value.orElse_fields_nil, Value.field_fields, Reading.ok_bind, hfields]
  cases htracker : c.issueTracker with
  | none =>
    have hnull : (given .null).truthy = false := rfl
    simp [List.lookup_cons, asListOrEmpty_given, Reading.ok_bind, asRead, htracker, hnull]
  | some t =>
    have hgiven : given t.toDoc = t.toDoc := rfl
    have htruthy : t.toDoc.truthy = true := rfl
    simp [List.lookup_cons, asListOrEmpty_given, Reading.ok_bind, asRead, htracker, hgiven, htruthy, IssueTracker.ofDoc_toDoc]

theorem toDoc_asRead (c : ActionConfig) : c.asRead.toDoc = c.toDoc := by
  have hcons {e : String × Value} {es es' : List (String × Value)}
      (h : (es.filter fun e => isGiven e.2) = es'.filter fun e => isGiven e.2) :
      ((e :: es).filter fun e => isGiven e.2) = (e :: es').filter fun e => isGiven e.2 := by
    rw [List.filter_cons, List.filter_cons, h]
  have hgiven {key : String} {v : Value} {es es' : List (String × Value)}
      (h : (es.filter fun e => isGiven e.2) = es'.filter fun e => isGiven e.2) :
      (((key, given v) :: es).filter fun e => isGiven e.2) = ((key, v) :: es').filter fun e => isGiven e.2 :=
    (filter_given_cons key v es).trans (hcons h)
  exact congrArg Value.fields (hgiven <| hgiven <| hgiven <| hcons <| hcons <| hgiven <| hgiven rfl)

end ActionConfig

namespace RuleAction

/-- The action as its document gives it. -/
def asRead (a : RuleAction) : RuleAction := { a with config := a.config.asRead }

/-- The type is in upper case. -/
def Documented (a : RuleAction) : Prop := Text.upper a.type = a.type

theorem toDoc_asRead (a : RuleAction) : a.asRead.toDoc = a.toDoc := by
  unfold toDoc asRead
  rw [ActionConfig.toDoc_asRead]

theorem documented_ofDoc {doc : Value} {a : RuleAction} (h : ofDoc doc = .ok a) : a.Documented := by
  simp only [ofDoc, Reading.bind_eq_ok, Reading.pure_eq_ok] at h
  obtain ⟨_, _, type, htype, h⟩ := h
  repeat obtain ⟨_, _, h⟩ := h
  exact Value.upper_of_upperText htype

/-- An action of a known type has its text in upper case. -/
theorem documented_of (type : ActionType) (config : ActionConfig) : (of type config).Documented :=
  Scale.Capital.upper_text type

theorem ofDoc_toDoc {a : RuleAction} (h : a.Documented) : ofDoc a.toDoc = .ok a.asRead := by
  have htype : (Value.str a.type).upperText = .ok a.type := congrArg Except.ok h
  simp [ofDoc, toDoc, asRead, List.lookup_cons, Reading.ok_bind, htype, ActionConfig.ofDoc_toDoc]

end RuleAction

/-! ## Rules -/

/-- The time of the last update is fixed. -/
def RuleMetadata.Documented (m : RuleMetadata) : Prop := ∀ t ∈ m.lastUpdated, t.Fixed

namespace RuleMetadata

theorem documented_ofDoc {doc : Value} {m : RuleMetadata} (h : ofDoc doc = .ok m) : m.Documented := by
  simp only [ofDoc, Reading.bind_eq_ok, Reading.pure_eq_ok] at h
  repeat obtain ⟨_, _, h⟩ := h
  exact Value.fixed_of_asTimestamp ‹_›

theorem ofDoc_toDoc {m : RuleMetadata} (h : m.Documented) : ofDoc m.toDoc = .ok m := by
  simp [ofDoc, toDoc, List.lookup_cons, Reading.ok_bind, Value.asTimestamp_toDoc h]

end RuleMetadata

/-- The rule has a type in upper case, a severity and metadata, and its parts are as documents give them. -/
structure Rule.Documented (r : Rule) : Prop where
  type : ∃ s, r.type = .str s ∧ Text.upper s = s
  severity : ∃ s, r.severity = .held s
  actions : ∀ a ∈ r.actions, a.Documented
  metadata : ∃ m, r.metadata = .held m ∧ m.Documented

namespace Rule

/-- The rule as its document gives it. -/
def asRead (r : Rule) : Rule :=
  { r with conditions := r.conditions.map Condition.asRead, actions := r.actions.map RuleAction.asRead }

theorem toDoc_asRead (r : Rule) : r.asRead.toDoc = r.toDoc := by
  have hconditions : Value.ofRecords Condition.toDoc r.asRead.conditions = .ofRecords Condition.toDoc r.conditions := by
    unfold Value.ofRecords asRead
    rw [List.map_map]
    exact congrArg Value.list (List.map_congr_left fun c _ => c.toDoc_asRead)
  have hactions : Value.ofRecords RuleAction.toDoc r.asRead.actions = .ofRecords RuleAction.toDoc r.actions := by
    unfold Value.ofRecords asRead
    rw [List.map_map]
    exact congrArg Value.list (List.map_congr_left fun a _ => a.toDoc_asRead)
  unfold toDoc
  rw [hconditions, hactions]
  rfl

theorem documented_ofDoc {doc : Value} {r : Rule} (h : ofDoc doc = .ok r) : r.Documented := by
  simp only [ofDoc, Reading.bind_eq_ok, Reading.pure_eq_ok] at h
  repeat obtain ⟨_, _, h⟩ := h
  exact {
    type := ⟨_, rfl, Value.upper_of_upperText ‹_›⟩
    severity := ⟨_, rfl⟩
    actions := forall_asRecords (fun _ _ => RuleAction.documented_ofDoc) ‹_›
    metadata := ⟨_, rfl, RuleMetadata.documented_ofDoc ‹_›⟩ }

theorem ofDoc_toDoc {r : Rule} (h : r.Documented) {doc : Value} (hdoc : r.toDoc = .ok doc) : ofDoc doc = .ok r.asRead := by
  obtain ⟨id, name, description, type, severity, enabled, conditions, actions, metadata⟩ := r
  obtain ⟨⟨type, rfl, htype⟩, ⟨severity, rfl⟩, hactions, metadata, rfl, hmetadata⟩ := h
  cases hdoc
  have hupper : (Value.str type).upperText = .ok type := congrArg Except.ok htype
  have hconditions := mapM_map fun c (_ : c ∈ conditions) => Condition.ofDoc_toDoc c
  have hactions := mapM_map fun a ha => RuleAction.ofDoc_toDoc (hactions a ha)
  simp [ofDoc, asRead, List.lookup_cons, Reading.ok_bind, Value.ofRecords, hupper, hconditions, hactions,
    RuleMetadata.ofDoc_toDoc hmetadata]

end Rule

/-! ## Policies -/

theorem PolicyScope.ofDoc_toDoc (s : PolicyScope) : ofDoc s.toDoc = .ok s := by
  simp [ofDoc, toDoc, List.lookup_cons, Reading.ok_bind]

theorem Enforcement.ofDoc_toDoc (e : Enforcement) : ofDoc e.toDoc = .ok e := by
  simp [ofDoc, toDoc, List.lookup_cons, Reading.ok_bind]

/-- The date of the change is fixed. -/
def PolicyChange.Documented (c : PolicyChange) : Prop := ∀ t ∈ c.date, t.Fixed

namespace PolicyChange

theorem documented_ofDoc {doc : Value} {c : PolicyChange} (h : ofDoc doc = .ok c) : c.Documented := by
  simp only [ofDoc, Reading.bind_eq_ok, Reading.pure_eq_ok] at h
  repeat obtain ⟨_, _, h⟩ := h
  exact Value.fixed_of_asTimestamp ‹_›

theorem ofDoc_toDoc {c : PolicyChange} (h : c.Documented) : ofDoc c.toDoc = .ok c := by
  simp [ofDoc, toDoc, List.lookup_cons, Reading.ok_bind, Value.asTimestamp_toDoc h]

end PolicyChange

/-- The times of reviews and changes are fixed. -/
structure PolicyMetadata.Documented (m : PolicyMetadata) : Prop where
  lastReview : ∀ t ∈ m.lastReview, t.Fixed
  nextReview : ∀ t ∈ m.nextReview, t.Fixed
  changeLog : ∀ c ∈ m.changeLog, c.Documented

namespace PolicyMetadata

theorem documented_ofDoc {doc : Value} {m : PolicyMetadata} (h : ofDoc doc = .ok m) : m.Documented := by
  simp only [ofDoc, Reading.bind_eq_ok, Reading.pure_eq_ok] at h
  repeat obtain ⟨_, _, h⟩ := h
  exact {
    lastReview := Value.fixed_of_asTimestamp ‹_›
    nextReview := Value.fixed_of_asTimestamp ‹_›
    changeLog := forall_asRecords (fun _ _ => PolicyChange.documented_ofDoc) ‹_› }

theorem ofDoc_toDoc {m : PolicyMetadata} (h : m.Documented) : ofDoc m.toDoc = .ok m := by
  have hlog := mapM_docs fun c hc => PolicyChange.ofDoc_toDoc (h.changeLog c hc)
  simp [ofDoc, toDoc, List.lookup_cons, Reading.ok_bind, Value.ofRecords, Value.asTimestamp_toDoc h.lastReview,
    Value.asTimestamp_toDoc h.nextReview, hlog]

end PolicyMetadata

/-- The time of the next review is fixed. -/
def ReviewSchedule.Documented (s : ReviewSchedule) : Prop := ∀ t ∈ s.nextReview, t.Fixed

namespace ReviewSchedule

theorem documented_ofDoc {doc : Value} {s : ReviewSchedule} (h : ofDoc doc = .ok s) : s.Documented := by
  simp only [ofDoc, Reading.bind_eq_ok, Reading.pure_eq_ok] at h
  repeat obtain ⟨_, _, h⟩ := h
  exact Value.fixed_of_asTimestamp ‹_›

theorem ofDoc_toDoc {s : ReviewSchedule} (h : s.Documented) : ofDoc s.toDoc = .ok s := by
  simp [ofDoc, toDoc, List.lookup_cons, Reading.ok_bind, Value.asTimestamp_toDoc h]

end ReviewSchedule

/-- The times of the exception are fixed. -/
structure PolicyException.Documented (e : PolicyException) : Prop where
  approvedAt : e.approvedAt.Fixed
  expiresAt : ∀ t ∈ e.expiresAt, t.Fixed
  reviewSchedule : ∀ s ∈ e.reviewSchedule, s.Documented

namespace PolicyException

theorem documented_ofDoc {now : Timestamp} (hnow : now.Fixed) {doc : Value} {e : PolicyException} (h : ofDoc now doc = .ok e) :
    e.Documented := by
  simp only [ofDoc, Reading.bind_eq_ok] at h
  repeat obtain ⟨_, _, h⟩ := h
  -- with a review schedule, and without
  split at h <;> simp only [Reading.bind_eq_ok, Reading.pure_eq_ok] at h <;> repeat obtain ⟨_, _, h⟩ := h
  all_goals
    subst_vars
    refine {
      approvedAt := Value.fixed_getD (Value.fixed_of_asTimestamp ‹_›) hnow
      expiresAt := Value.fixed_of_asTimestamp ‹_›
      reviewSchedule := ?_ }
  · rintro _ ⟨⟩
    obtain ⟨s, hs, heq⟩ := Reading.map_eq_ok.mp ‹_›
    cases heq
    exact ReviewSchedule.documented_ofDoc hs
  · rintro _ ⟨⟩

theorem ofDoc_toDoc {e : PolicyException} (h : e.Documented) (now : Timestamp) : ofDoc now e.toDoc = .ok e := by
  obtain ⟨id, ruleId, dependency, reason, justification, approvedBy, approvedAt, expiresAt, conditions, reviewSchedule, status⟩ := e
  have happroved := Value.asTimestamp_format h.approvedAt
  have hexpires := Value.asTimestamp_toDoc h.expiresAt
  cases reviewSchedule with
  | none =>
    have hnull : Value.null.truthy = false := rfl
    simp [ofDoc, toDoc, List.lookup_cons, Reading.ok_bind, happroved, hexpires, hnull]
  | some s =>
    have htruthy : s.toDoc.truthy = true := rfl
    have hschedule := ReviewSchedule.ofDoc_toDoc (h.reviewSchedule s rfl)
    simp [ofDoc, toDoc, List.lookup_cons, Reading.ok_bind, happroved, hexpires, htruthy, hschedule]

end PolicyException

/-- The policy has a version that is a text, a scope, an enforcement and exceptions; its times are fixed, and its
rules are as documents give them. -/
structure Policy.Documented (p : Policy) : Prop where
  version : ∃ s, p.version = .str s
  scope : ∃ s, p.scope = .held s
  rules : ∀ r ∈ p.rules, r.Documented
  enforcement : ∃ e, p.enforcement = .held e
  exceptions : ∃ es : List PolicyException, p.exceptions = .held (es.map .held) ∧ ∀ e ∈ es, e.Documented
  metadata : p.metadata.Documented
  createdAt : p.createdAt.Fixed
  updatedAt : p.updatedAt.Fixed
  approvedAt : ∃ o : Option Timestamp, p.approvedAt = (o.map Value.time).getD .null ∧ ∀ t ∈ o, t.Fixed

namespace Policy

/-- The policy as its document gives it. -/
def asRead (p : Policy) : Policy := { p with rules := p.rules.map Rule.asRead }

theorem toDoc_asRead (p : Policy) : p.asRead.toDoc = p.toDoc := by
  have hrules : (p.rules.map Rule.asRead).mapM Rule.toDoc = p.rules.mapM Rule.toDoc := by
    rw [List.mapM_map]
    exact congrArg (p.rules.mapM ·) (funext Rule.toDoc_asRead)
  unfold toDoc asRead
  dsimp only
  rw [hrules]
  rfl

theorem documented_ofDoc {now : Timestamp} (hnow : now.Fixed) {doc : Value} {p : Policy} (h : ofDoc now doc = .ok p) :
    p.Documented := by
  simp only [ofDoc, Reading.bind_eq_ok, Reading.pure_eq_ok] at h
  repeat obtain ⟨_, _, h⟩ := h
  exact {
    version := ⟨_, rfl⟩
    scope := ⟨_, rfl⟩
    rules := forall_asRecords (fun _ _ => Rule.documented_ofDoc) ‹_›
    enforcement := ⟨_, rfl⟩
    exceptions := ⟨_, rfl, forall_asRecords (fun _ _ => PolicyException.documented_ofDoc hnow) ‹_›⟩
    metadata := PolicyMetadata.documented_ofDoc ‹_›
    createdAt := Value.fixed_getD (Value.fixed_of_asTimestamp ‹_›) hnow
    updatedAt := Value.fixed_getD (Value.fixed_of_asTimestamp ‹_›) hnow
    approvedAt := ⟨_, rfl, Value.fixed_of_asTimestamp ‹_›⟩ }

theorem ofDoc_toDoc {p : Policy} (h : p.Documented) (now : Timestamp) {doc : Value} (hdoc : p.toDoc = .ok doc) :
    ofDoc now doc = .ok p.asRead := by
  obtain ⟨id, tenantId, name, description, version, enabled, priority, scope, rules, enforcement, exceptions, metadata,
    createdAt, updatedAt, createdBy, approvedBy, approvedAt⟩ := p
  obtain ⟨⟨version, rfl⟩, ⟨scope, rfl⟩, hrules, ⟨enforcement, rfl⟩, ⟨exceptions, rfl, hexceptions⟩, hmetadata, hcreated, hupdated,
    approvedAt, rfl, happroved⟩ := h
  have hheld : (exceptions.map Loose.held).mapM (fun e => PolicyException.toDoc <$> e.part "to_dict") =
      .ok (exceptions.map PolicyException.toDoc) :=
    mapM_map fun e _ => Reading.map_ok PolicyException.toDoc e
  simp only [toDoc, Loose.part_held, Reading.ok_bind, exceptionList, hheld, Reading.bind_eq_ok, Reading.pure_eq_ok] at hdoc
  obtain ⟨ruleDocs, hruleDocs, approval, happroval, rfl⟩ := hdoc
  have hread := mapM_of_forall₂ hruleDocs fun r hr doc => Rule.ofDoc_toDoc (hrules r hr)
  have hexceptionsRead := mapM_docs fun e he => PolicyException.ofDoc_toDoc (hexceptions e he) now
  have hmetadataRead := PolicyMetadata.ofDoc_toDoc hmetadata
  have hcreatedRead := Value.asTimestamp_format hcreated
  have hupdatedRead := Value.asTimestamp_format hupdated
  have happrovedRead : approval.asTimestamp = .ok approvedAt := by
    cases approvedAt with
    | none =>
      cases happroval
      rfl
    | some t =>
      cases happroval
      exact Value.asTimestamp_format (happroved t rfl)
  dsimp only at hread hmetadataRead hcreatedRead hupdatedRead
  simp [ofDoc, asRead, List.lookup_cons, Reading.ok_bind, hread, hexceptionsRead, hmetadataRead, hcreatedRead, hupdatedRead, happrovedRead,
    PolicyScope.ofDoc_toDoc, Enforcement.ofDoc_toDoc]

end Policy

end SupplyGate
