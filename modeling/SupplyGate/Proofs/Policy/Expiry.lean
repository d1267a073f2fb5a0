import SupplyGate.Gate.Policies
import SupplyGate.Proofs.Gate.Course

/-!
# Exceptions that have lapsed

A sweep marks every active exception as expired whose expiry is not after the time of the sweep. Such an
exception is not in force at that time or later, marked or not: the sweep tests for what is left over by
the test that an evaluation makes. So nothing that an evaluation at that time or later notes about a
dependency tells the policies after the sweep from those before (`dependencyCourse_swept`).
-/

namespace SupplyGate

/-- What a field holds, after a change. -/
def Loose.map {α β : Type} (f : α → β) : Loose α → Loose β
  | .held a => .held (f a)
  | .raw v => .raw v

/-! ## Exceptions -/

namespace PolicyException

variable {e : PolicyException} {n now : Timestamp}

/-- The exception can be swept at a time: if it is active, it has an expiry, and the time has an offset, as the expiry
has. -/
def Expires (now : Timestamp) (e : PolicyException) : Prop :=
  e.status = .active → (∃ t, e.expiresAt = some t) ∧ now.offset.isSome = true

/-- The exception is active, and its expiry is not after a time. -/
def lapses (now : Timestamp) (e : PolicyException) : Bool :=
  e.status == .active && e.expiresAt.any fun t => !t.isAfter now

/-- The exception after a sweep. -/
def swept (now : Timestamp) (e : PolicyException) : PolicyException :=
  if e.lapses now then { e with status := .expired } else e

theorem isLapsed_ok_iff {b : Bool} : e.isLapsed now = .ok b ↔ e.Expires now ∧ b = e.lapses now := by
  unfold isLapsed Expires lapses expiry
  by_cases hs : e.status = .active
  · cases he : e.expiresAt with
    | none => simp [hs, bind, Except.bind]
    | some t =>
      have hkinds : Timestamp.checkKinds "compare" t.assumeUtc now = .ok () ↔ now.offset.isSome = true :=
        Timestamp.checkKinds_assumeUtc
      simp only [hs, if_true, bind, Except.bind, Option.some.injEq, exists_eq', true_and, forall_true_left]
      rw [← hkinds]
      cases Timestamp.checkKinds "compare" t.assumeUtc now with
      | error f => simp
      | ok _ => simp [pure, Except.pure, eq_comm]
  · rw [if_neg hs, Reading.pure_eq_ok, beq_false_of_ne hs, Bool.false_and, eq_comm (b := b)]
    exact (and_iff_right fun hactive => absurd hactive hs).symm

theorem covers_swept (ruleId name : Value) : (e.swept n).covers ruleId name = e.covers ruleId name := by
  unfold swept
  split <;> rfl

/-- What has lapsed by a time is not in force at that time or later. -/
theorem isActive_of_lapses (hn : n.instant ≤ now.instant) (h : e.lapses n = true) : e.isActive now = .ok false := by
  simp only [lapses, Bool.and_eq_true, beq_iff_eq, Option.any_eq_true] at h
  obtain ⟨hs, t, ht, hlapsed⟩ := h
  have hafter : t.isAfter now = false := by
    simp only [Timestamp.isAfter, Bool.not_eq_true', decide_eq_false_iff_not, Int.not_lt] at hlapsed ⊢
    omega
  simp [isActive, expiry, hs, ht, hafter, bind, Except.bind, pure, Except.pure]

theorem isActive_swept (hn : n.instant ≤ now.instant) : (e.swept n).isActive now = e.isActive now := by
  unfold swept
  split
  · next h =>
    rw [isActive_of_lapses hn h]
    rfl
  · rfl

/-- An exception that is in force is not touched by an earlier sweep. -/
theorem swept_of_isActive (hn : n.instant ≤ now.instant) (h : e.isActive now = .ok true) : e.swept n = e := by
  unfold swept
  split
  · next hl =>
    rw [isActive_of_lapses hn hl] at h
    cases h
  · rfl

/-- Nothing has lapsed earlier that is still there after a sweep. -/
theorem lapses_swept (hn : now.instant ≤ n.instant) : (e.swept n).lapses now = false := by
  unfold swept
  split
  · rfl
  · next h =>
    by_contra hlapses
    simp only [lapses, Bool.not_eq_false, Bool.and_eq_true, beq_iff_eq, Option.any_eq_true] at h hlapses
    obtain ⟨hs, t, ht, hlapsed⟩ := hlapses
    refine h ⟨hs, t, ht, ?_⟩
    simp only [Timestamp.isAfter, Bool.not_eq_true', decide_eq_false_iff_not, Int.not_lt] at hlapsed ⊢
    omega

theorem swept_of_not_lapses (h : e.lapses now = false) : e.swept now = e := by
  rw [swept, h]
  rfl

theorem Expires.again (h : e.Expires now) : (e.swept n).Expires now := by
  unfold swept
  split
  · intro hs
    cases hs
  · exact h

theorem Expires.of_offset (h : e.Expires n) (ho : n.offset.isSome = true → now.offset.isSome = true) : e.Expires now :=
  fun hs => ⟨(h hs).1, ho (h hs).2⟩

/-- A sweep changes the status of an exception just when the exception has lapsed. -/
theorem status_swept : e.status ≠ (e.swept now).status ↔ e.lapses now = true := by
  unfold swept
  split
  · next h =>
    have hs : e.status = .active := by
      simp only [lapses, Bool.and_eq_true, beq_iff_eq] at h
      exact h.1
    simp [h, hs]
  · next h => simp [h]

end PolicyException

/-! ## Policies -/

namespace Policy

variable {p : Policy} {n now : Timestamp}

/-- The policy after a sweep. -/
def swept (now : Timestamp) (p : Policy) : Policy :=
  { p with exceptions := p.exceptions.map (List.map (Loose.map (PolicyException.swept now))) }

/-- The policy can be swept at a time: it has a list of exceptions, each of which can be. -/
def Expires (now : Timestamp) (p : Policy) : Prop :=
  ∃ es : List PolicyException, p.exceptionList = .ok (es.map .held) ∧ ∀ e ∈ es, e.Expires now

/-- How many exceptions of the policy a sweep expires. -/
def lapsed (now : Timestamp) (p : Policy) : Nat := p.heldExceptions.countP (PolicyException.lapses now)

theorem firstInForce_held (ruleId name : Value) (e : PolicyException) (es : List (Loose PolicyException)) :
    firstInForce ruleId name now (.held e :: es) =
      if e.covers ruleId name then do
        if ← e.isActive now then return some e
        firstInForce ruleId name now es
      else firstInForce ruleId name now es :=
  rfl

/-- Which exception is in force, if any, is the same after an earlier sweep. -/
theorem firstInForce_swept (hn : n.instant ≤ now.instant) (ruleId name : Value) :
    ∀ es : List (Loose PolicyException),
      firstInForce ruleId name now (es.map (Loose.map (PolicyException.swept n))) = firstInForce ruleId name now es
  | [] => rfl
  | .raw v :: es => rfl
  | .held e :: es => by
    have ih := firstInForce_swept hn ruleId name es
    rw [List.map_cons, Loose.map, firstInForce_held, firstInForce_held, PolicyException.covers_swept,
      PolicyException.isActive_swept hn, ih]
    cases hactive : e.isActive now with
    | error f => rfl
    | ok b =>
      cases b with
      | false => rfl
      | true => rw [PolicyException.swept_of_isActive hn hactive]

theorem exceptionList_swept :
    (p.swept n).exceptionList = p.exceptionList.map (List.map (Loose.map (PolicyException.swept n))) := by
  cases hp : p.exceptions with
  | held es =>
    simp only [swept, exceptionList, hp, Loose.map]
    rfl
  | raw v =>
    simp only [swept, exceptionList, hp, Loose.map]
    cases v.asList with
    | error f => rfl
    | ok items => simp [Loose.map, bind, Except.bind, pure, Except.pure, Except.map, Function.comp_def]

theorem exceptionFor_swept (hn : n.instant ≤ now.instant) (r : Rule) (d : Dependency) :
    (p.swept n).exceptionFor r d now = p.exceptionFor r d now := by
  rw [exceptionFor, exceptionFor, exceptionList_swept]
  cases p.exceptionList with
  | error f => rfl
  | ok es => exact firstInForce_swept hn r.id d.name es

/-- The same policies take effect after a sweep. -/
theorem active_swept (policies : List Policy) :
    Policy.active (policies.map (Policy.swept n)) = (Policy.active policies).map (List.map (Policy.swept n)) :=
  active_map (f := swept n) (fun _ => rfl) (fun _ => rfl) policies

end Policy

/-! ## Courses -/

section Courses

open Gate

variable {p : Policy} {n now : Timestamp}

variable {d : Dependency} {c : EvaluationContext}

theorem policyCourse_swept (hn : n.instant ≤ now.instant) (data : EvaluationData) :
    policyCourse d data c now (p.swept n) = policyCourse d data c now p := by
  have hrule : ruleCourse d data c now (p.swept n) = ruleCourse d data c now p := by
    funext r
    unfold ruleCourse
    rw [Policy.exceptionFor_swept hn]
    rfl
  unfold policyCourse
  rw [hrule]
  rfl

/-- **A sweep is not seen by a later evaluation**: it notes the same about a dependency. -/
theorem dependencyCourse_swept (hn : n.instant ≤ now.instant) (policies : List Policy) :
    dependencyCourse d c now (policies.map (Policy.swept n)) = dependencyCourse d c now policies := by
  have horder : ∀ data (order : List Policy),
      Course.inOrder (policyCourse d data c now) (order.map (Policy.swept n)) =
        .inOrder (policyCourse d data c now) order := by
    intro data order
    unfold Course.inOrder
    simp only [List.foldr_map, policyCourse_swept hn data]
  unfold dependencyCourse
  rw [Policy.active_swept]
  cases Policy.active policies with
  | error e => rfl
  | ok order => simp only [Except.map, Course.reading, horder]

end Courses

end SupplyGate
