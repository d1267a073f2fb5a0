import SupplyGate.Proofs.Gate.Readiness
import SupplyGate.Proofs.Policy.Validation

/-!
# What an evaluation has to be able to read

Of a policy that passed validation an evaluation still reads fields about which validation says
nothing: its scope, its exceptions up to the first that is in force, the fields of the conditions of a
rule that no exception sets aside, and what the finding of a rule that fires is told by. Of a dependency
whose last update is a timestamp or missing, it writes the name, and it counts the days since the update.
These are all that can keep such a dependency from being evaluated (`ready_iff_legible`).
-/

namespace SupplyGate

/-- The last update of the dependency is a timestamp, or missing. -/
def Dependency.Dated (d : Dependency) : Prop := d.lastUpdate = .null ∨ ∃ t, d.lastUpdate = .time t

/-- The name of the dependency can be written, and the days since its last update, if it has one, can be
counted: the time has an offset. -/
structure Dependency.Tellable (d : Dependency) (now : Timestamp) : Prop where
  name : d.name.isWritable = true
  age : d.lastUpdate ≠ .null → now.offset.isSome = true

theorem Dependency.Dated.daysSinceUpdate_ok_iff {d : Dependency} (h : d.Dated) {now : Timestamp} :
    (∃ days, d.daysSinceUpdate now = .ok days) ↔ (d.lastUpdate ≠ .null → now.offset.isSome = true) := by
  unfold daysSinceUpdate
  rcases h with h | ⟨t, h⟩ <;> rw [h]
  · simp
  · rw [← Timestamp.daysFrom_assumeUtc (t := t)]
    dsimp only
    cases now.daysFrom t.assumeUtc <;> simp [Functor.map, Except.map]

/-- A dated dependency can be told just when all that conditions can ask about it is known. -/
theorem Dependency.Dated.data_ok_iff {d : Dependency} (h : d.Dated) {c : EvaluationContext} {now : Timestamp} :
    (∃ data, EvaluationData.of d c now = .ok data) ↔ d.Tellable now := by
  rw [EvaluationData.of_ok_iff, h.daysSinceUpdate_ok_iff]
  exact ⟨fun ⟨hage, hname⟩ => ⟨hname, hage⟩, fun ⟨hname, hage⟩ => ⟨hage, hname⟩⟩

/-! ## Exceptions -/

theorem PolicyException.isActive_ok_iff {e : PolicyException} (now : Timestamp) :
    (∃ b, e.isActive now = .ok b) ↔ (e.status = .active → ∃ t, e.expiresAt = some t) := by
  unfold isActive
  by_cases hs : e.status = .active
  · rw [if_pos hs]
    unfold expiry
    cases he : e.expiresAt with
    | none => simp [hs, bind, Except.bind]
    | some t => simp [bind, Except.bind, pure, Except.pure]
  · rw [if_neg hs]
    simp [hs, pure, Except.pure]

/-- Exceptions that can be read up to the first that is in force for a rule and a package: each of them
is one, and has an expiry if it is active for them. -/
def ExceptionsLegible (ruleId name : Value) (now : Timestamp) : List (Loose PolicyException) → Prop
  | [] => True
  | l :: rest => ∃ e, l = .held e ∧
      (e.covers ruleId name = true → e.status = .active → ∃ t, e.expiresAt = some t) ∧
      (e.inForce ruleId name now = false → ExceptionsLegible ruleId name now rest)

theorem Policy.firstInForce_ok_iff {ruleId name : Value} {now : Timestamp} :
    ∀ {es : List (Loose PolicyException)},
      (∃ o, firstInForce ruleId name now es = .ok o) ↔ ExceptionsLegible ruleId name now es
  | [] => by simp [firstInForce, ExceptionsLegible]
  | .raw v :: es => by
    simp [firstInForce, ExceptionsLegible, Loose.part, bind, Except.bind]
  | .held e :: es => by
    have ih : (∃ o, firstInForce ruleId name now es = .ok o) ↔ ExceptionsLegible ruleId name now es :=
      firstInForce_ok_iff
    simp only [firstInForce, Loose.part_held, ExceptionsLegible, Loose.held.injEq, exists_eq_left',
      Reading.bind_eq_ok, Except.ok.injEq]
    rw [← ih, ← PolicyException.isActive_ok_iff now]
    by_cases hc : e.covers ruleId name = true
    · simp only [hc, if_true, forall_true_left, Reading.bind_eq_ok]
      constructor
      · rintro ⟨o, b, hb, ho⟩
        refine ⟨⟨b, hb⟩, fun hforce => ?_⟩
        rw [PolicyException.inForce, Bool.and_assoc, hc, ← PolicyException.isActive_ok hb, Bool.true_and] at hforce
        subst hforce
        exact ⟨o, ho⟩
      · rintro ⟨⟨b, hb⟩, hrest⟩
        cases b with
        | true => exact ⟨some e, true, hb, rfl⟩
        | false =>
          obtain ⟨o, ho⟩ := hrest (by
            rw [PolicyException.inForce, Bool.and_assoc, ← PolicyException.isActive_ok hb, Bool.and_false])
          exact ⟨o, false, hb, ho⟩
    · have hforce : e.inForce ruleId name now = false := by simp [PolicyException.inForce, hc]
      simp [hc, hforce]

theorem Policy.exceptionFor_ok_iff {p : Policy} {r : Rule} {d : Dependency} {now : Timestamp} :
    (∃ o, p.exceptionFor r d now = .ok o) ↔
      ∃ es, p.exceptionList = .ok es ∧ ExceptionsLegible r.id d.name now es := by
  simp only [← firstInForce_ok_iff, exceptionFor, Reading.bind_eq_ok]
  constructor
  · rintro ⟨o, es, hes, ho⟩
    exact ⟨es, hes, o, ho⟩
  · rintro ⟨es, hes, o, ho⟩
    exact ⟨o, es, hes, ho⟩

namespace Gate

/-! ## Rules, policies, evaluations -/

/-- What the check of a rule reads beyond what validation promises: exceptions, the fields of its
conditions unless an exception sets it aside, and if it fires what the finding is told by. -/
structure RuleLegible (d : Dependency) (data : EvaluationData) (now : Timestamp) (p : Policy) (r : Rule) :
    Prop where
  exceptions : ∃ es, p.exceptionList = .ok es ∧ ExceptionsLegible r.id d.name now es
  fields : p.waiver d now r = none → ∀ k ∈ r.conditions, ∃ name, k.field = .str name
  finding : fires d data now (p, r) = true → Nameable p r d

/-- What the check of a policy reads beyond what validation promises. -/
structure PolicyLegible (d : Dependency) (data : EvaluationData) (c : EvaluationContext) (now : Timestamp)
    (p : Policy) : Prop where
  scope : ∃ scope, p.scope = .held scope
  rules : p.inScope d c = true → ∀ r ∈ p.rules, r.enabled.truthy = true → RuleLegible d data now p r

/-- What the evaluation of a dependency reads beyond what validation promises. -/
structure Legible (d : Dependency) (policies : List Policy) (c : EvaluationContext) (now : Timestamp) : Prop where
  dependency : d.Tellable now
  policies : ∃ order, Policy.active policies = .ok order ∧
    ∀ data, EvaluationData.of d c now = .ok data → ∀ p ∈ order, PolicyLegible d data c now p

section Legible

variable {d : Dependency} {data : EvaluationData} {c : EvaluationContext} {now : Timestamp} {p : Policy}
  {r : Rule}

theorem ruleReady_iff (hr : r.Checked) : RuleReady d data now p r ↔ RuleLegible d data now p r := by
  have hfolds : Folds data r ↔ ∀ k ∈ r.conditions, ∃ name, k.field = .str name :=
    ConditionOutcome.of_ok_iff hr.joins
  constructor
  · rintro ⟨hexception, hfold, hfinding⟩
    exact ⟨Policy.exceptionFor_ok_iff.mp hexception, fun hw => hfolds.mp (hfold hw), hfinding⟩
  · rintro ⟨hexceptions, hfields, hfinding⟩
    exact ⟨Policy.exceptionFor_ok_iff.mpr hexceptions, fun hw => hfolds.mpr (hfields hw), hfinding⟩

theorem policyReady_iff (hp : p.Checked) : PolicyReady d data c now p ↔ PolicyLegible d data c now p := by
  constructor
  · rintro ⟨hscope, hrules⟩
    exact ⟨hscope, fun hin r hr he => (ruleReady_iff (hp r hr)).mp (hrules hin r hr he)⟩
  · rintro ⟨hscope, hrules⟩
    exact ⟨hscope, fun hin r hr he => (ruleReady_iff (hp r hr)).mpr (hrules hin r hr he)⟩

/-- All that the evaluation of a dependency reads can be read just when it can read what validation
says nothing about. -/
theorem ready_iff_legible {policies : List Policy} (hd : d.Dated) (hp : ∀ p ∈ policies, p.Checked) :
    Ready d policies c now ↔ Legible d policies c now := by
  constructor
  · rintro ⟨data, order, hdata, horder, h⟩
    refine ⟨hd.data_ok_iff.mp ⟨data, hdata⟩, order, horder, fun data' hdata' p hmem => ?_⟩
    obtain rfl : data = data' := Except.ok.inj (hdata.symm.trans hdata')
    exact (policyReady_iff (hp p (mem_of_active horder p hmem))).mp (h p hmem)
  · rintro ⟨htellable, order, horder, h⟩
    obtain ⟨data, hdata⟩ := hd.data_ok_iff.mpr htellable
    refine ⟨data, order, hdata, horder, fun p hmem => ?_⟩
    exact (policyReady_iff (hp p (mem_of_active horder p hmem))).mpr (h data hdata p hmem)

end Legible

end Gate

/-! ## Policies that can be read -/

/-- Every part of the policy is of its kind, every active exception has an expiry, and the ids and the names that
stand in the texts of findings can be written. -/
structure Policy.Sound (p : Policy) : Prop where
  enforcement : ∃ e, p.enforcement = .held e
  scope : ∃ scope, p.scope = .held scope
  exceptions : ∃ es : List PolicyException, p.exceptions = .held (es.map .held) ∧
    ∀ e ∈ es, e.status = .active → ∃ t, e.expiresAt = some t
  fields : ∀ r ∈ p.rules, ∀ k ∈ r.conditions, ∃ name, k.field = .str name
  types : ∀ r ∈ p.rules, ∃ k, r.type = .scalar k
  metadata : ∀ r ∈ p.rules, ∃ m, r.metadata = .held m
  names : ∀ r ∈ p.rules, r.name.isWritable = true
  ids : ∀ r ∈ p.rules, ∀ id ∈ [p.tenantId, p.id, r.id], id.isWritable = true

theorem Policy.Sound.nameable {p : Policy} (h : p.Sound) {r : Rule} (hr : r ∈ p.rules) {d : Dependency}
    (hd : d.name.isWritable = true) : Gate.Nameable p r d where
  type := h.types r hr
  name := h.names r hr
  metadata := h.metadata r hr
  text part hpart := by
    rcases List.mem_append.mp (show part ∈ [p.tenantId, p.id, r.id] ++ [d.name] from hpart) with hid | hname
    · exact h.ids r hr part hid
    · rwa [List.mem_singleton.mp hname]

theorem exceptionsLegible_of_expiring {ruleId name : Value} {now : Timestamp} : ∀ {es : List PolicyException},
    (∀ e ∈ es, e.status = .active → ∃ t, e.expiresAt = some t) →
      ExceptionsLegible ruleId name now (es.map .held)
  | [], _ => trivial
  | e :: es, h => by
    refine ⟨e, rfl, fun _ => h e List.mem_cons_self, fun _ => ?_⟩
    exact exceptionsLegible_of_expiring fun e' he' => h e' (List.mem_cons_of_mem _ he')

theorem Policy.Sound.legible {p : Policy} (h : p.Sound) {d : Dependency} (hd : d.name.isWritable = true)
    (data : EvaluationData) (c : EvaluationContext) (now : Timestamp) : Gate.PolicyLegible d data c now p where
  scope := h.scope
  rules _ r hr _ := by
    obtain ⟨es, hes, hexpiring⟩ := h.exceptions
    have hlist : p.exceptionList = .ok (es.map .held) := by
      unfold Policy.exceptionList
      rw [hes]
    exact ⟨⟨_, hlist, exceptionsLegible_of_expiring hexpiring⟩, fun _ => h.fields r hr, fun _ => h.nameable hr hd⟩

namespace Gate

/-- Sound policies with comparable priorities can be read for every dependency that can be told. -/
theorem legible_of_sound {policies : List Policy} (hp : ∀ p ∈ policies, p.Sound)
    (hc : Comparable (policies.map (·.priority))) {d : Dependency} (c : EvaluationContext) {now : Timestamp}
    (hd : d.Tellable now) : Legible d policies c now := by
  obtain ⟨order, horder⟩ := Policy.active_eq_ok (fun p hmem => (hp p hmem).enforcement) hc
  exact ⟨hd, order, horder, fun data _ p hmem => (hp p (mem_of_active horder p hmem)).legible hd.name data c now⟩

end Gate
end SupplyGate
