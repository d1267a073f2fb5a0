import SupplyGate.Policy.Validation
import SupplyGate.Proofs.Gate.Course
import SupplyGate.Proofs.Policy.FindingDocuments
import SupplyGate.Proofs.Value.Ranking

/-!
# What documents leave out makes no difference

A rule and what its document gives have the same problems, trigger on the same dependencies, and give findings with
the same documents: the course of an evaluation against policies as their documents give them is the course against
the policies, with its findings as their documents give them (`dependencyCourse_asRead`).
-/

namespace SupplyGate

/-- Items that are changed without their readings are read as before, number by number. -/
theorem zipIdx_mapM_map {α β : Type} {f : α → α} {g : α × Nat → Reading β} (h : ∀ a n, g (f a, n) = g (a, n)) (as : List α)
    (n : Nat) : ((as.map f).zipIdx n).mapM g = (as.zipIdx n).mapM g := by
  induction as generalizing n with
  | nil => rfl
  | cons a as ih => rw [List.map_cons, List.zipIdx_cons, List.zipIdx_cons, List.mapM_cons, List.mapM_cons, h, ih]

theorem zipIdx_flatMap_map {α β : Type} {f : α → α} {g : α × Nat → List β} (h : ∀ a n, g (f a, n) = g (a, n)) (as : List α)
    (n : Nat) : ((as.map f).zipIdx n).flatMap g = (as.zipIdx n).flatMap g := by
  induction as generalizing n with
  | nil => rfl
  | cons a as ih => rw [List.map_cons, List.zipIdx_cons, List.zipIdx_cons, List.flatMap_cons, List.flatMap_cons, h, ih]

/-! ## Problems -/

namespace Validation

theorem conditionProblems_asRead (place : String) (c : Condition) :
    conditionProblems place c.asRead = conditionProblems place c := by
  cases h : c.joinNext.truthy with
  | true =>
    have hsame : c.asRead = c := by
      unfold Condition.asRead
      rw [if_pos h]
    rw [hsame]
  | false =>
    have hnull : c.asRead.joinNext = .null := by
      unfold Condition.asRead
      rw [if_neg (by simp [h])]
    have hjoins : joins c = .ok true := by rw [joins, if_neg (by simp [h])]
    unfold conditionProblems
    rw [show joins c.asRead = .ok true by rw [joins, hnull, if_neg (by decide)], hjoins]
    rfl

theorem ruleProblems_asRead (r : Rule) (n : Nat) : ruleProblems r.asRead n = ruleProblems r n := by
  unfold ruleProblems
  dsimp only
  rw [show r.asRead.conditions = r.conditions.map Condition.asRead from rfl,
    show r.asRead.actions = r.actions.map RuleAction.asRead from rfl, List.isEmpty_map, List.isEmpty_map,
    zipIdx_mapM_map fun c _ => conditionProblems_asRead _ c, zipIdx_flatMap_map (f := RuleAction.asRead) fun _ _ => rfl]
  rfl

/-- A policy is checked as its document gives it. -/
theorem check_asRead (p : Policy) : check p.asRead = check p := by
  have hproblems : problems p.asRead = problems p := by
    unfold problems
    dsimp only
    rw [show p.asRead.rules = p.rules.map Rule.asRead from rfl, List.isEmpty_map, zipIdx_mapM_map ruleProblems_asRead]
    rfl
  unfold check
  rw [hproblems]

end Validation

/-! ## Conditions -/

namespace ConditionOutcome

variable {table : FieldTable} {data : EvaluationData}

/-- The outcome with its conditions as their documents give them. -/
def asRead (outcome : ConditionOutcome) : ConditionOutcome :=
  { outcome with holding := outcome.holding.map Condition.asRead }

theorem join_asRead (c : Condition) : c.asRead.join = c.join := by
  unfold Condition.join Condition.asRead
  cases h : c.joinNext.truthy with
  | true => simp [h]
  | false => rfl

theorem advance_asRead (run : Running) (c : Condition) :
    advance table data { run with holding := run.holding.map Condition.asRead } c.asRead =
      (advance table data run c).map fun next => { next with holding := next.holding.map Condition.asRead } := by
  unfold advance
  rw [join_asRead]
  change (Field.nameOf c.field >>= _) = (Field.nameOf c.field >>= _).map _
  cases Field.nameOf c.field with
  | error f => rfl
  | ok name =>
    simp only [Reading.ok_bind]
    cases c.join with
    | error f => rfl
    | ok join =>
      simp only [Reading.ok_bind]
      change Except.ok _ = Except.ok _
      cases htest : operatorTest c.operator (Field.resolve table name data) c.value with
      | true => simp [Condition.asRead, htest]
      | false => simp [Condition.asRead, htest]

theorem of_asRead (conditions : List Condition) :
    of table data (conditions.map Condition.asRead) = (of table data conditions).map asRead := by
  have hrun : ∀ (cs : List Condition) (run : Running),
      (cs.map Condition.asRead).foldlM (advance table data) { run with holding := run.holding.map Condition.asRead } =
        (cs.foldlM (advance table data) run).map fun next => { next with holding := next.holding.map Condition.asRead } := by
    intro cs
    induction cs with
    | nil => exact fun _ => rfl
    | cons c cs ih =>
      intro run
      rw [List.map_cons, List.foldlM_cons, List.foldlM_cons, advance_asRead]
      cases advance table data run c with
      | error f => rfl
      | ok next => exact ih next
  have hstart : (conditions.map Condition.asRead).foldlM (advance table data) .start = _ := hrun conditions .start
  unfold of
  rw [hstart]
  cases conditions.foldlM (advance table data) .start with
  | error f => rfl
  | ok run => rfl

end ConditionOutcome

/-! ## Actions -/

namespace Rule

theorem enabledActions_asRead (r : Rule) : r.asRead.enabledActions = r.enabledActions.map RuleAction.asRead :=
  List.filter_map

theorem isBlocking_asRead (r : Rule) : r.asRead.isBlocking = r.isBlocking := by
  rw [isBlocking, isBlocking, enabledActions_asRead, List.any_map]
  rfl

end Rule

theorem Evaluation.isBlocked_asRead (e : Evaluation) : e.asRead.isBlocked = e.isBlocked := by
  unfold isBlocked asRead
  rw [List.any_map]
  exact congrArg e.violations.any (funext fun v => v.details.rule.isBlocking_asRead)

/-! ## Courses -/

/-- The note with its finding as a document gives it. -/
def Note.asRead : Note → Note
  | .found r v => .found r.asRead v.asRead
  | n => n

namespace Course

variable {α β : Type}

/-- The course with its findings as documents give them. -/
def asRead (x : Course) : Course := { x with notes := x.notes.map Note.asRead }

theorem asRead_andThen (x y : Course) : (x.andThen y).asRead = x.asRead.andThen y.asRead := by
  cases hx : x.stop with
  | none => simp [andThen, asRead, hx]
  | some e => simp [andThen, asRead, hx]

/-- A course that goes on with a changed result of a reading. -/
theorem reading_map {r : Reading α} {g : α → β} {f : β → Course} {f' : α → Course} (h : ∀ a, f (g a) = (f' a).asRead) :
    reading (r.map g) f = (reading r f').asRead := by
  cases r with
  | error e => rfl
  | ok a => exact h a

theorem asRead_reading {r : Reading α} {f f' : α → Course} (h : ∀ a, f a = (f' a).asRead) :
    reading r f = (reading r f').asRead := by
  cases r with
  | error e => rfl
  | ok a => exact h a

theorem inOrder_map {f : β → Course} {g : α → β} {f' : α → Course} (h : ∀ a, f (g a) = (f' a).asRead) (as : List α) :
    inOrder f (as.map g) = (inOrder f' as).asRead := by
  induction as with
  | nil => rfl
  | cons a as ih =>
    change (f (g a)).andThen (inOrder f (as.map g)) = ((f' a).andThen (inOrder f' as)).asRead
    rw [asRead_andThen, ih, h]

end Course

namespace Gate

variable {d : Dependency} {data : EvaluationData} {c : EvaluationContext} {now : Timestamp}

theorem violationOf_asRead (p : Policy) (r : Rule) (outcome : ConditionOutcome) (topic : Finding.Topic) (id : Value)
    (metadata : RuleMetadata) :
    Finding.violationOf p.asRead r.asRead d outcome.asRead c now topic id metadata =
      (Finding.violationOf p r d outcome c now topic id metadata).asRead := by
  have hevidence : (outcome.holding.map Condition.asRead).map (Finding.evidenceOf outcome.actualValues now) =
      outcome.holding.map (Finding.evidenceOf outcome.actualValues now) := by
    rw [List.map_map]
    rfl
  unfold Finding.violationOf ConditionOutcome.asRead
  rw [hevidence]
  rfl

theorem ruleCourse_asRead (p : Policy) (r : Rule) :
    ruleCourse d data c now p.asRead r.asRead = (ruleCourse d data c now p r).asRead := by
  have hfinding (outcome : ConditionOutcome) :
      findingCourse d c now p.asRead r.asRead outcome.asRead = (findingCourse d c now p r outcome).asRead := by
    refine Course.asRead_reading fun topic => Course.asRead_reading fun _ => ?_
    rw [show findingMetadata d p.asRead r.asRead = findingMetadata d p r from rfl]
    cases findingMetadata d p r with
    | ok metadata =>
      dsimp only
      rw [violationOf_asRead]
      rfl
    | error f => rfl
  unfold ruleCourse
  change (if r.enabled.truthy then _ else _) = _
  split
  · refine Course.asRead_reading fun e => ?_
    cases e with
    | some e => rfl
    | none =>
      dsimp only
      rw [show r.asRead.conditions = r.conditions.map Condition.asRead from rfl, ConditionOutcome.of_asRead]
      refine Course.reading_map fun outcome => ?_
      change (if outcome.triggered then _ else _) = _
      split
      · exact hfinding outcome
      · rfl
  · rfl

theorem policyCourse_asRead (p : Policy) : policyCourse d data c now p.asRead = (policyCourse d data c now p).asRead := by
  refine Course.asRead_reading fun applies => ?_
  split
  · rw [Course.asRead_andThen, ← Course.inOrder_map (ruleCourse_asRead p)]
    rfl
  · rfl

/-- The same policies take effect as their documents give them. -/
theorem active_asRead (policies : List Policy) :
    Policy.active (policies.map Policy.asRead) = (Policy.active policies).map (List.map Policy.asRead) :=
  Policy.active_map (f := Policy.asRead) (fun _ => rfl) (fun _ => rfl) policies

/-- **What documents leave out is not seen by an evaluation**: it notes the same about a dependency. -/
theorem dependencyCourse_asRead (policies : List Policy) :
    dependencyCourse d c now (policies.map Policy.asRead) = (dependencyCourse d c now policies).asRead := by
  refine Course.asRead_reading fun data => ?_
  rw [active_asRead]
  exact Course.reading_map fun order => Course.inOrder_map policyCourse_asRead order

end Gate

end SupplyGate
