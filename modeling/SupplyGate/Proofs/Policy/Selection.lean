import SupplyGate.Policy.Fold
import SupplyGate.Policy.Selection
import SupplyGate.Proofs.Value.Ranking
import SupplyGate.Proofs.Value.Reading

/-!
# Which policies and rules count

What selection decides, without the faults of fields that hold something else: `takesEffect` and
`inScope` say which policies take part, `enabledRules` which of their rules are checked, and
`Policy.waiver` which exception sets a rule aside. Each selection that gives an answer gives this
one.
-/

namespace SupplyGate

/-! ## Policies that take effect -/

namespace Policy

/-- The policy is enabled and its mode does not switch it off. -/
def takesEffect (p : Policy) : Bool :=
  p.enabled.truthy && match p.enforcement with
    | .held e => e.mode != .disabled
    | .raw _ => false

/-- The policy has a scope, and it admits the dependency. -/
def inScope (d : Dependency) (c : EvaluationContext) (p : Policy) : Bool :=
  match p.scope with
  | .held s => s.admits d c
  | .raw _ => false

theorem isActive_ok {p : Policy} {b : Bool} (h : p.isActive = .ok b) : b = p.takesEffect := by
  unfold isActive at h
  split at h
  · next he =>
    obtain ⟨e, hp, h⟩ := Reading.bind_eq_ok.mp h
    have hm := Reading.pure_eq_ok.mp h
    cases hf : p.enforcement with
    | held e' =>
      rw [hf, Loose.part_held, Except.ok.injEq] at hp
      subst hp
      simp [takesEffect, he, hf, ← hm]
    | raw v =>
      rw [hf] at hp
      cases hp
  · next he =>
    have hm := Reading.pure_eq_ok.mp h
    simp [takesEffect, he, ← hm]

theorem isActive_eq_ok {p : Policy} {e : Enforcement} (h : p.enforcement = .held e) :
    p.isActive = .ok p.takesEffect := by
  unfold isActive takesEffect
  rw [h]
  split <;> simp_all [Loose.part_held, bind, Except.bind, pure, Except.pure]

theorem appliesTo_ok {p : Policy} {d : Dependency} {c : EvaluationContext} {b : Bool}
    (h : p.appliesTo d c = .ok b) : b = p.inScope d c := by
  obtain ⟨s, hp, h⟩ := Reading.bind_eq_ok.mp h
  have hm := Reading.pure_eq_ok.mp h
  cases hf : p.scope with
  | held s' =>
    rw [hf, Loose.part_held, Except.ok.injEq] at hp
    subst hp
    rw [inScope, hf, ← hm]
  | raw v =>
    rw [hf] at hp
    cases hp

/-- An order of some policies by priority, highest first: no policy stands before one above it, and policies that may stay
as they are do so, ties among them. -/
structure RankedOrder (policies order : List Policy) : Prop where
  descends : order.Pairwise fun p q => ¬ Value.Below p.priority q.priority
  stable : ∀ p q, ¬ Value.Below p.priority q.priority → [p, q].Sublist policies → [p, q].Sublist order

theorem active_sorted {policies order : List Policy} (h : Policy.active policies = .ok order) :
    sortDescending (·.priority) (policies.filter takesEffect) = .ok order := by
  obtain ⟨kept, hk, hs⟩ := Reading.bind_eq_ok.mp h
  rwa [← filterM_ok (fun p _ b => isActive_ok) hk]

theorem active_perm {policies order : List Policy} (h : Policy.active policies = .ok order) :
    order.Perm (policies.filter takesEffect) :=
  sortDescending_perm (active_sorted h)

/-- Where the priorities form an order with ties, the policies that take effect come in the order of theirs. -/
theorem active_ranked {policies order : List Policy} (h : Policy.active policies = .ok order)
    (hr : Value.Ranked ((policies.filter takesEffect).map (·.priority))) :
    RankedOrder (policies.filter takesEffect) order :=
  ⟨sortDescending_pairwise hr (active_sorted h), fun _ _ => sortDescending_stable hr (active_sorted h)⟩

/-- Policies that are changed without their effect and their priority take effect in the same order. -/
theorem active_map {f : Policy → Policy} (hactive : ∀ p, (f p).isActive = p.isActive)
    (hpriority : ∀ p, (f p).priority = p.priority) (policies : List Policy) :
    Policy.active (policies.map f) = (Policy.active policies).map (List.map f) := by
  unfold Policy.active
  rw [filterM_map hactive]
  cases policies.filterM isActive with
  | error e => rfl
  | ok ps => exact sortDescending_map hpriority ps

theorem active_nil : Policy.active [] = .ok [] := rfl

theorem active_singleton {p : Policy} (h : p.isActive = .ok true) : Policy.active [p] = .ok [p] := by
  have hf : [p].filterM isActive = .ok [p] := by
    rw [List.filterM, List.filterAuxM, h]
    rfl
  rw [Policy.active, hf]
  exact sortDescending_singleton (·.priority) p

/-- Policies with comparable priorities, each with an enforcement, can be selected from. -/
theorem active_eq_ok {policies : List Policy} (hp : ∀ p ∈ policies, ∃ e, p.enforcement = .held e)
    (hc : Comparable (policies.map (·.priority))) : ∃ order, Policy.active policies = .ok order := by
  have hkept : policies.filterM isActive = .ok (policies.filter takesEffect) := by
    refine filterM_eq_ok fun p hmem => ?_
    obtain ⟨e, he⟩ := hp p hmem
    exact isActive_eq_ok he
  have hcomparable : Comparable ((policies.filter takesEffect).map (·.priority)) := by
    have hsub := List.map_subset (·.priority) (List.filter_subset_self (p := takesEffect) policies)
    exact fun a ha b hb => hc a (hsub ha) b (hsub hb)
  obtain ⟨order, horder⟩ := sortDescending_ok hcomparable
  exact ⟨order, Reading.bind_eq_ok.mpr ⟨_, hkept, horder⟩⟩

end Policy

/-! ## Rules that are checked -/

/-- The enabled rules of some policies, each with its policy, in order. -/
def enabledRules (policies : List Policy) : List (Policy × Rule) :=
  policies.flatMap fun p => (p.rules.filter (·.enabled.truthy)).map fun r => (p, r)

theorem enabledRules_append (ps qs : List Policy) :
    enabledRules (ps ++ qs) = enabledRules ps ++ enabledRules qs :=
  List.flatMap_append

theorem enabledRules_singleton (p : Policy) :
    enabledRules [p] = (p.rules.filter (·.enabled.truthy)).map fun r => (p, r) :=
  List.flatMap_singleton ..

/-- The conditions of a rule fold to true on a dependency. -/
def Rule.holdsOn (data : EvaluationData) (r : Rule) : Bool :=
  match ConditionOutcome.of Field.standard data r.conditions with
  | .ok outcome => outcome.triggered
  | .error _ => false

/-! ## Exceptions -/

/-- The exception is for this rule and package, active, and expires after `now`. -/
def PolicyException.inForce (ruleId name : Value) (now : Timestamp) (e : PolicyException) : Bool :=
  e.covers ruleId name && e.status == .active && e.expiresAt.any (·.isAfter now)

theorem PolicyException.isActive_ok {e : PolicyException} {now : Timestamp} {b : Bool}
    (h : e.isActive now = .ok b) : b = (e.status == .active && e.expiresAt.any (·.isAfter now)) := by
  unfold isActive at h
  split at h
  · next hs =>
    obtain ⟨t, ht, h⟩ := Reading.bind_eq_ok.mp h
    have hm := Reading.pure_eq_ok.mp h
    unfold expiry at ht
    split at ht
    · next t' he =>
      cases ht
      simp [hs, he, hm]
    · cases ht
  · next hs =>
    have hm := Reading.pure_eq_ok.mp h
    simp [hs, ← hm]

namespace Policy

/-- The exceptions that a policy holds. -/
def heldExceptions (p : Policy) : List PolicyException :=
  match p.exceptions with
  | .held es => es.filterMap Loose.get?
  | .raw _ => []

/-- The first exception of the policy that sets the rule aside for the dependency. -/
def waiver (d : Dependency) (now : Timestamp) (p : Policy) (r : Rule) : Option PolicyException :=
  p.heldExceptions.find? (PolicyException.inForce r.id d.name now)

theorem firstInForce_ok {ruleId name : Value} {now : Timestamp} :
    ∀ {es : List (Loose PolicyException)} {o : Option PolicyException},
      firstInForce ruleId name now es = .ok o →
        o = (es.filterMap Loose.get?).find? (PolicyException.inForce ruleId name now)
  | [], _, h => by
    cases h
    rfl
  | .raw v :: es, o, h => by
    obtain ⟨e, he, -⟩ := Reading.bind_eq_ok.mp h
    cases he
  | .held e :: es, o, h => by
    simp only [firstInForce, Loose.part_held] at h
    obtain ⟨_, ⟨⟩, h⟩ := Reading.bind_eq_ok.mp h
    have hget : (Loose.held e).get? = some e := rfl
    rw [List.filterMap_cons_some hget, List.find?_cons, PolicyException.inForce, Bool.and_assoc]
    by_cases hc : e.covers ruleId name
    · rw [if_pos hc] at h
      obtain ⟨b, hb, h⟩ := Reading.bind_eq_ok.mp h
      rw [hc, Bool.true_and, ← PolicyException.isActive_ok hb]
      cases b with
      | true => exact (Reading.pure_eq_ok.mp h).symm
      | false => exact firstInForce_ok h
    · rw [if_neg hc] at h
      rw [Bool.eq_false_iff.mpr hc]
      exact firstInForce_ok h

theorem exceptionFor_ok {p : Policy} {r : Rule} {d : Dependency} {now : Timestamp}
    {o : Option PolicyException} (h : p.exceptionFor r d now = .ok o) : o = p.waiver d now r := by
  obtain ⟨es, hes, h⟩ := Reading.bind_eq_ok.mp h
  rw [firstInForce_ok h]
  cases hp : p.exceptions with
  | held es' =>
    obtain rfl : es' = es := by simpa [exceptionList, hp] using hes
    simp [waiver, heldExceptions, hp]
  | raw v =>
    have hnone : p.waiver d now r = none := by simp [waiver, heldExceptions, hp]
    simp only [exceptionList, hp] at hes
    obtain ⟨items, -, hi⟩ := Reading.bind_eq_ok.mp hes
    cases hi
    rw [hnone]
    cases items with
    | nil => rfl
    | cons v items =>
      obtain ⟨e, he, -⟩ := Reading.bind_eq_ok.mp h
      cases he

end Policy
end SupplyGate
