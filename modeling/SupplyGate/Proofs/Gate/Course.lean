import SupplyGate.Proofs.Gate.Evaluation
import SupplyGate.Proofs.Store.Refiling

/-!
# The course of an evaluation

What an evaluation notes about a dependency, rule by rule, and where it stops if something cannot be
read, are decided by the dependency, the policies, the context and the time alone: its `Course`. The
gate only comes in when the findings of the course are filed. So every evaluation is its course, filed
(`evaluateDependency_eq_course`), from whatever state and in whatever store.
-/

namespace SupplyGate

/-- What the check of a policy or of a rule notes. A finding has no id yet. -/
inductive Note where
  | taken (policyId : Value)
  | quiet
  | excepted (e : PolicyException)
  | found (r : Rule) (v : Violation)

/-- The finding that a note is of. -/
def Note.findings : Note → List Violation
  | .found _ v => [v]
  | _ => []

/-- What stops an evaluation. The id of a finding is spent if the finding cannot be built after all. -/
structure Stop where
  fault : Fault
  spent : Bool

/-- What an evaluation notes, and what stops it before its end. -/
structure Course where
  notes : List Note
  stop : Option Stop

namespace Course

variable {α : Type}

/-- Nothing is noted. -/
def empty : Course := ⟨[], none⟩

def note (n : Note) : Course := ⟨[n], none⟩

def halt (f : Fault) (spent : Bool) : Course := ⟨[], some ⟨f, spent⟩⟩

/-- One course after another, unless the first is stopped. -/
def andThen (x y : Course) : Course :=
  match x.stop with
  | some _ => x
  | none => ⟨x.notes ++ y.notes, y.stop⟩

/-- A course that goes on with what a reading gives. -/
def reading (r : Reading α) (f : α → Course) : Course :=
  match r with
  | .ok a => f a
  | .error e => halt e false

/-- The courses of some items one after the other. -/
def inOrder (f : α → Course) (as : List α) : Course := as.foldr (fun a x => (f a).andThen x) empty

/-- The findings of a course. -/
def findings (x : Course) : List Violation := x.notes.flatMap Note.findings

end Course

/-- The tally with a note, when findings have these records. -/
def Tally.add (records : Violation → Violation) (t : Tally) : Note → Tally
  | .taken id => { t with policyIds := t.policyIds ++ [id] }
  | .quiet => { t with rulesEvaluated := t.rulesEvaluated + 1 }
  | .excepted e => { t with rulesEvaluated := t.rulesEvaluated + 1, exceptions := t.exceptions ++ [e] }
  | .found r v => { t with rulesEvaluated := t.rulesEvaluated + 1 }.addFinding r (records v)

/-- The tally of a course, when its findings have these records. -/
def Course.tally (records : Violation → Violation) (x : Course) : Tally :=
  x.notes.foldl (Tally.add records) .empty

/-- What a course comes to, when its findings have these records. -/
def Course.result (records : Violation → Violation) (x : Course) : Reading Tally :=
  match x.stop with
  | some e => .error e.fault
  | none => .ok (x.tally records)

theorem Course.result_of_none {x : Course} (h : x.stop = none) (records : Violation → Violation) :
    x.result records = .ok (x.tally records) := by
  rw [result, h]

theorem Course.result_of_some {x : Course} {e : Stop} (h : x.stop = some e) (records : Violation → Violation) :
    x.result records = .error e.fault := by
  rw [result, h]

/-! ## Courses of rules, policies and dependencies -/

section Courses

variable (d : Dependency) (data : EvaluationData) (c : EvaluationContext) (now : Timestamp)

/-- The metadata of a rule, if the text of its finding can be written. -/
def findingMetadata (p : Policy) (r : Rule) : Reading RuleMetadata := do
  let metadata ← r.metadata.part "tags"
  Value.checkAll (Finding.parts p r d)
  return metadata

/-- The course of a finding. -/
def findingCourse (p : Policy) (r : Rule) (outcome : ConditionOutcome) : Course :=
  .reading (Finding.topicOf r.type) fun topic => .reading r.name.checkWritable fun _ =>
    match findingMetadata d p r with
    | .ok metadata => .note (.found r (Finding.violationOf p r d outcome c now topic .null metadata))
    | .error f => .halt f true

/-- The course of a rule. -/
def ruleCourse (p : Policy) (r : Rule) : Course :=
  if r.enabled.truthy then
    .reading (p.exceptionFor r d now) fun
      | some e => .note (.excepted e)
      | none => .reading (ConditionOutcome.of Field.standard data r.conditions) fun outcome =>
        if outcome.triggered then findingCourse d c now p r outcome else .note .quiet
  else .empty

/-- The course of a policy. -/
def policyCourse (p : Policy) : Course :=
  .reading (p.appliesTo d c) fun applies =>
    if applies then (Course.note (.taken p.id)).andThen (.inOrder (ruleCourse d data c now p) p.rules)
    else .empty

/-- The course of a dependency against some policies. -/
def dependencyCourse (policies : List Policy) : Course :=
  .reading (EvaluationData.of d c now) fun data =>
    .reading (Policy.active policies) fun order => .inOrder (policyCourse d data c now) order

end Courses

/-! ### What courses note -/

/-- Every note of a course has a property. -/
def Course.Every (P : Note → Prop) (x : Course) : Prop := ∀ n ∈ x.notes, P n

namespace Course.Every

variable {α : Type} {P : Note → Prop}

theorem empty : Every P .empty := by
  intro n hn
  cases hn

theorem note {n : Note} (h : P n) : Every P (.note n) := by
  intro m hm
  rwa [List.mem_singleton.mp hm]

theorem halt {f : Fault} {spent : Bool} : Every P (.halt f spent) := by
  intro n hn
  cases hn

theorem andThen {x y : Course} (hx : Every P x) (hy : Every P y) : Every P (x.andThen y) := by
  intro n hn
  unfold Course.andThen at hn
  split at hn
  · exact hx n hn
  · exact (List.mem_append.mp hn).elim (hx n) (hy n)

theorem reading {r : Reading α} {f : α → Course} (h : ∀ a, r = .ok a → Every P (f a)) :
    Every P (.reading r f) := by
  cases r with
  | error e => exact halt
  | ok a => exact h a rfl

theorem inOrder {f : α → Course} {as : List α} (h : ∀ a ∈ as, Every P (f a)) : Every P (.inOrder f as) := by
  induction as with
  | nil => exact empty
  | cons a as ih =>
    obtain ⟨ha, has⟩ := List.forall_mem_cons.mp h
    exact ha.andThen (ih has)

end Course.Every

/-- What holds of the policies that take part, of the exceptions that set rules aside, and of the findings that the
rules would give, holds of every note of a course. -/
theorem dependencyCourse_every {d : Dependency} {c : EvaluationContext} {now : Timestamp} {policies : List Policy}
    {P : Note → Prop} (taken : ∀ p ∈ policies, P (.taken p.id)) (quiet : P .quiet)
    (excepted : ∀ p ∈ policies, ∀ r e, p.exceptionFor r d now = .ok (some e) → P (.excepted e))
    (found : ∀ data, EvaluationData.of d c now = .ok data → ∀ p ∈ policies, ∀ r ∈ p.rules, ∀ outcome,
      ConditionOutcome.of Field.standard data r.conditions = .ok outcome → ∀ topic metadata, r.metadata = .held metadata →
      (∀ part ∈ Finding.parts p r d, part.isWritable = true) →
      P (.found r (Finding.violationOf p r d outcome c now topic .null metadata))) :
    (dependencyCourse d c now policies).Every P := by
  refine .reading fun data hdata => .reading fun order horder => .inOrder fun p hp => .reading fun applies _ => ?_
  have hp : p ∈ policies := Gate.mem_of_active horder p hp
  split
  · refine .andThen (.note (taken p hp)) (.inOrder fun r hr => ?_)
    unfold ruleCourse
    split
    · refine .reading fun o ho => ?_
      cases o with
      | some e => exact .note (excepted p hp r e ho)
      | none =>
        refine .reading fun outcome houtcome => ?_
        split
        · refine .reading fun topic _ => .reading fun _ _ => ?_
          split
          · next metadata hread =>
            obtain ⟨_, hmetadata, hwritten⟩ := Reading.bind_eq_ok.mp hread
            obtain ⟨_, hparts, hm⟩ := Reading.bind_eq_ok.mp hwritten
            obtain rfl := Reading.pure_eq_ok.mp hm
            exact .note (found data hdata p hp r hr outcome houtcome topic _ (Loose.part_eq_ok.mp hmetadata)
              (Value.checkAll_eq_ok.mp hparts))
          · exact .halt
        · exact .note quiet
    · exact .empty
  · exact .empty

/-- Every finding of a course is one that a rule of one of the policies gives. -/
theorem violationOf_of_mem_findings {d : Dependency} {c : EvaluationContext} {now : Timestamp}
    {policies : List Policy} {v : Violation} (hv : v ∈ (dependencyCourse d c now policies).findings) :
    ∃ p ∈ policies, ∃ r ∈ p.rules, ∃ outcome topic metadata, r.metadata = .held metadata ∧
      v = Finding.violationOf p r d outcome c now topic .null metadata := by
  have hevery : (dependencyCourse d c now policies).Every fun n => ∀ w ∈ n.findings,
      ∃ p ∈ policies, ∃ r ∈ p.rules, ∃ outcome topic metadata, r.metadata = .held metadata ∧
        w = Finding.violationOf p r d outcome c now topic .null metadata := by
    refine dependencyCourse_every (by simp [Note.findings]) (by simp [Note.findings]) (by simp [Note.findings]) ?_
    intro _ _ p hp r hr outcome _ topic metadata hmetadata _ w hw
    exact ⟨p, hp, r, hr, outcome, topic, metadata, hmetadata, List.mem_singleton.mp hw⟩
  obtain ⟨n, hn, hv⟩ := List.mem_flatMap.mp hv
  exact hevery n hn v hv

/-- A finding is one of its rule, and new. -/
def Note.Sound (now : Timestamp) : Note → Prop
  | .found r v => v.New now ∧ v.details.rule = r
  | _ => True

/-- The findings of a course are new ones of their rules. -/
theorem dependencyCourse_sound (d : Dependency) (c : EvaluationContext) (now : Timestamp)
    (policies : List Policy) : (dependencyCourse d c now policies).Every (Note.Sound now) := by
  refine dependencyCourse_every (fun _ _ => trivial) trivial (fun _ _ _ _ _ => trivial) ?_
  intro _ _ p _ r _ outcome _ topic metadata _ hwritten
  exact ⟨⟨hwritten, rfl, ⟨rfl, rfl, rfl⟩, rfl⟩, rfl⟩

namespace Gate

/-! ## Filing a course -/

/-- A finding is stored under a fresh id, or refreshes the violation on record. -/
def file (now : Timestamp) (v : Violation) : Gate Violation := do
  let id ← fresh .violation
  record now { v with id }

/-- A note is added to the tally, a finding with the record that it is given. -/
def fileNote (now : Timestamp) (t : Tally) : Note → Gate Tally
  | .found r v => do
    let w ← file now v
    return t.add (fun _ => w) (.found r v)
  | n => return t.add id n

/-- An evaluation stops with a fault. -/
def raise (e : Stop) : Gate Tally := do
  if e.spent then discard (fresh .violation)
  throw e.fault

/-- The notes of a course are filed, and then it stops or goes on. -/
def fileCourse (now : Timestamp) (x : Course) (t : Tally) : Gate Tally := do
  let t ← x.notes.foldlM (fileNote now) t
  match x.stop with
  | some e => raise e
  | none => return t

section File

variable {α : Type} {now : Timestamp}

@[simp] theorem fileCourse_empty (t : Tally) : fileCourse now .empty t = pure t := by
  simp [fileCourse, Course.empty]

@[simp] theorem fileCourse_note (n : Note) (t : Tally) : fileCourse now (.note n) t = fileNote now t n := by
  simp [fileCourse, Course.note]

@[simp] theorem fileCourse_halt (f : Fault) (spent : Bool) (t : Tally) :
    fileCourse now (.halt f spent) t = raise ⟨f, spent⟩ := by
  simp [fileCourse, Course.halt]

@[simp] theorem fileCourse_reading (r : Reading α) (f : α → Course) (t : Tally) :
    fileCourse now (.reading r f) t = ofReading r >>= fun a => fileCourse now (f a) t := by
  cases r with
  | error e => rfl
  | ok a => rfl

theorem fileCourse_andThen (x y : Course) (t : Tally) :
    fileCourse now (x.andThen y) t = fileCourse now x t >>= fileCourse now y := by
  unfold Course.andThen
  cases hx : x.stop with
  | none =>
    simp only [fileCourse, hx, List.foldlM_append, bind_assoc, pure_bind]
  | some e =>
    have hraise : ∀ g : Tally → Gate Tally, raise e >>= g = raise e := by
      intro g
      unfold raise
      cases e.spent <;> rfl
    simp only [fileCourse, hx, bind_assoc, hraise]

theorem fileCourse_inOrder (f : α → Course) (as : List α) (t : Tally) :
    fileCourse now (.inOrder f as) t = as.foldlM (fun t a => fileCourse now (f a) t) t := by
  induction as generalizing t with
  | nil => exact fileCourse_empty t
  | cons a as ih =>
    change fileCourse now ((f a).andThen (.inOrder f as)) t = _
    rw [fileCourse_andThen, List.foldlM_cons]
    exact bind_congr ih

end File

/-! ## Every evaluation is its course -/

section Evaluate

variable (d : Dependency) (data : EvaluationData) (c : EvaluationContext) (now : Timestamp)

theorem detect_eq_course (p : Policy) (r : Rule) (outcome : ConditionOutcome) (t : Tally) :
    (do
      let v ← detect p r d outcome c now
      return { t with rulesEvaluated := t.rulesEvaluated + 1 }.addFinding r v) =
      fileCourse now (findingCourse d c now p r outcome) t := by
  unfold detect foundViolation findingCourse findingMetadata
  rw [fileCourse_reading]
  simp only [bind_assoc]
  refine bind_congr fun topic => ?_
  rw [fileCourse_reading]
  refine bind_congr fun _ => ?_
  cases r.metadata.part "tags" with
  | ok metadata =>
    cases hparts : Value.checkAll (Finding.parts p r d) with
    | ok _ =>
      change _ = fileCourse now (.note (.found r (Finding.violationOf p r d outcome c now topic .null metadata))) t
      simp only [fileCourse_note, fileNote, file, bind_assoc]
      rfl
    | error f =>
      have hrecord : ∀ id, record now (Finding.violationOf p r d outcome c now topic id metadata) = throw f := by
        intro id
        unfold record
        rw [show Violation.keyParts _ = Finding.parts p r d from rfl, hparts]
        rfl
      have hraise : (fresh .violation >>= fun _ => throw f : Gate Tally) = raise ⟨f, true⟩ := rfl
      refine Eq.trans (bind_congr fun id => ?_) hraise
      change record now _ >>= _ = _
      rw [hrecord]
      rfl
  | error f => rfl

theorem checkRule_eq_course (p : Policy) (t : Tally) (r : Rule) :
    checkRule p d data c now t r = fileCourse now (ruleCourse d data c now p r) t := by
  unfold ruleCourse
  cases he : r.enabled.truthy with
  | false =>
    unfold checkRule
    simp [he]
  | true =>
    rw [checkRule_eq _ _ _ _ _ _ _ he, if_pos rfl, fileCourse_reading]
    refine bind_congr fun o => ?_
    cases o with
    | some e => simp [fileNote, Tally.add]
    | none =>
      dsimp only
      rw [fileCourse_reading]
      refine bind_congr fun outcome => ?_
      cases outcome.triggered with
      | false => simp [fileNote, Tally.add]
      | true => exact detect_eq_course d c now p r outcome t

theorem checkPolicy_eq_course (t : Tally) (p : Policy) :
    checkPolicy d data c now t p = fileCourse now (policyCourse d data c now p) t := by
  unfold checkPolicy policyCourse
  rw [fileCourse_reading]
  refine bind_congr fun applies => ?_
  cases applies with
  | false => simp
  | true =>
    simp only [if_true, fileCourse_andThen, fileCourse_note, fileNote, pure_bind, fileCourse_inOrder,
      ← checkRule_eq_course]
    rfl

/-- **An evaluation is its course.** -/
theorem evaluateDependency_eq_course (policies : List Policy) :
    evaluateDependency d policies c = do
      let s ← get
      let now := evaluationTime c s
      let t ← fileCourse now (dependencyCourse d c now policies) .empty
      return t.evaluation d now := by
  rw [evaluateDependency_eq]
  refine bind_congr fun s => ?_
  simp only [dependencyCourse, fileCourse_reading, bind_assoc]
  refine bind_congr fun data => bind_congr fun order => ?_
  rw [fileCourse_inOrder]
  simp only [← checkPolicy_eq_course]

end Evaluate

end Gate
end SupplyGate
