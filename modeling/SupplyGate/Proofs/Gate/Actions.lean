import SupplyGate.Gate.Evaluator
import SupplyGate.Proofs.Gate.Steps

/-!
# What actions can change

Actions read the gate, publish events and call collaborators, and nothing else. So they keep every
invariant that publishing and calling keep, and since a failure of one is recorded and not passed
on, carrying out the actions of a finding never fails.
-/

namespace SupplyGate.Gate

section Keeps

variable {I : GateState → Prop} {others : Collaborators} {config : ActionConfig} {v : Violation}
  {c : EvaluationContext}

theorem keeps_find {α : Type} [Stored α] {shelf : Shelf α} {id : Value} : Keeps I (find shelf id) :=
  keeps_get.bind fun _ => keeps_ofReading

theorem keeps_clock : Keeps I clock := keeps_get.bind fun _ => keeps_pure

variable (hp : ∀ e : Event, e.Incidental → Keeps I (publish e))
  (hn : ∀ call, Keeps I (noteCall call))
include hp

theorem keeps_block : Keeps I (block config v) := Keeps.bind (hp _ ⟨rfl, rfl, rfl⟩) fun _ => keeps_pure

theorem keeps_warn : Keeps I (warn config v) := Keeps.bind (hp _ ⟨rfl, rfl, rfl⟩) fun _ => keeps_pure

theorem keeps_log : Keeps I (log config v) := by
  refine keeps_ofReading.bind fun level => ?_
  dsimp only
  have htell : ∀ told : Gate Value, (∃ text, told = (do
      publish (.violationLogged v.tenantId v.id level text)
      return .fields [("logged", .bool true), ("level", level), ("message", text)])) → Keeps I told := by
    rintro told ⟨text, rfl⟩
    exact Keeps.bind (hp _ ⟨rfl, rfl, rfl⟩) fun _ => keeps_pure
  split
  · exact keeps_throw.bind fun _ => keeps_ofReading.bind fun _ => htell _ ⟨_, rfl⟩
  · exact keeps_ofReading.bind fun _ => htell _ ⟨_, rfl⟩

theorem keeps_autoFix : Keeps I (autoFix config v c) := by
  refine keeps_ofReading.bind fun strategy => ?_
  refine Keeps.bind (keeps_find.bind fun _ => keeps_pure) fun s => ?_
  refine keeps_ofReading.bind fun approving => ?_
  exact Keeps.bind (hp _ ⟨rfl, rfl, rfl⟩) fun _ => keeps_pure

theorem keeps_escalate : Keeps I (escalate config v) :=
  keeps_clock.bind fun _ => Keeps.bind (hp _ ⟨rfl, rfl, rfl⟩) fun _ => keeps_pure

include hn

theorem keeps_askNotifier : Keeps I (askNotifier others config v) := by
  refine Keeps.bind (hp _ ⟨rfl, rfl, rfl⟩) fun _ => ?_
  cases others.notifier with
  | none => exact keeps_pure
  | some reply => exact Keeps.bind (hn _) fun _ => keeps_get.bind fun _ => keeps_pure

theorem keeps_notify : Keeps I (notify others config v) :=
  Keeps.bind (keeps_askNotifier hp hn) fun _ => keeps_ofReading.bind fun _ => keeps_pure

omit hp in
theorem keeps_askTracker {tracker : IssueTracker} {issue : Value} : Keeps I (askTracker others tracker issue) := by
  unfold askTracker
  cases others.tracker with
  | none => exact keeps_pure
  | some reply => exact Keeps.bind (hn _) fun _ => keeps_get.bind fun _ => keeps_pure

omit hn in
theorem keeps_tellIssue {tracker : IssueTracker} {issue issueKey : Value} : Keeps I (tellIssue tracker v issue issueKey) :=
  Keeps.bind (hp _ ⟨rfl, rfl, rfl⟩) fun _ => keeps_pure

theorem keeps_createIssue : Keeps I (createIssue others config v) := by
  unfold createIssue
  cases config.issueTracker with
  | none => exact keeps_throw
  | some tracker =>
    refine keeps_ofReading.bind fun issue => Keeps.bind (keeps_askTracker hn) fun answer => ?_
    exact keeps_ofReading.bind fun issueKey => keeps_tellIssue hp

theorem keeps_perform (a : RuleAction) : Keeps I (perform others v c a) := by
  unfold perform
  cases (Scale.ofText? a.type : Option ActionType) with
  | none => exact keeps_throw
  | some type =>
    cases type with
    | block => exact keeps_block hp
    | warn => exact keeps_warn hp
    | log => exact keeps_log hp
    | notify => exact keeps_notify hp hn
    | autoFix => exact keeps_autoFix hp
    | createIssue => exact keeps_createIssue hp hn
    | escalate => exact keeps_escalate hp

theorem keeps_runAction (a : RuleAction) : Keeps I (runAction others v c a) := by
  refine Keeps.tryCatch ?_ fun f => keeps_clock.bind fun _ => keeps_pure
  exact Keeps.bind (keeps_perform hp hn a) fun _ => keeps_clock.bind fun _ => keeps_pure

theorem keeps_execute : Keeps I (execute others c v) := Keeps.mapM fun a _ => keeps_runAction hp hn a

end Keeps

section Succeeds

variable {others : Collaborators} {v : Violation} {c : EvaluationContext} {s : GateState}

theorem succeeds_runAction (a : RuleAction) : Succeeds (runAction others v c a) s :=
  succeeds_tryCatch fun _ _ _ => ⟨_, _, rfl⟩

/-- Carrying out the actions of a finding never fails. -/
theorem succeeds_execute : Succeeds (execute others c v) s :=
  succeeds_mapM (I := fun _ => True) trivial (fun _ _ => keeps_true _) fun a _ _ _ => succeeds_runAction a

end Succeeds

end SupplyGate.Gate
