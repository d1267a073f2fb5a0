import SupplyGate.Proofs.Gate.Findings
import SupplyGate.Proofs.Session.Applying
import SupplyGate.Proofs.Session.Fixes
import SupplyGate.Proofs.Session.Relabelling

/-!
# The identity of rules

Exceptions are for rules with an id, and violations are found again by it. Say that rules come without ids, and
that no update has two rules for one of the policy that it updates (`Unconfused`). Then the rules of a policy have
different ids, an exception for one of them sets no other one aside, and rules that trigger have violations of
their own. This lasts just as long as there is no such update (`rule_ids_iff`).
-/

namespace SupplyGate

open Gate

/-! ## Evaluations of policies on record -/

section Evaluations

variable {s : GateState} {n : Nat}

/-- Policies whose rules have different ids, and share none, have different ids of rules all together. -/
theorem nodup_ruleIds_records {m : MemoryStore Policy} (hd : m.Distinct) (hids : m.RuleIds n) (hsep : m.Separate) :
    (ruleIds (m.records.map (·.2))).Nodup := by
  refine List.nodup_flatMap.mpr ⟨fun p hp => ?_, List.pairwise_map.mpr ?_⟩
  · obtain ⟨e, he, rfl⟩ := List.mem_map.mp hp
    exact hsep e he
  · refine (List.pairwise_map.mp hd).imp_of_mem fun {e e'} he he' hne => ?_
    exact hids.apart (hd.lookup_of_mem he) (hd.lookup_of_mem he') hne

/-- The policies that a run takes from the record. -/
theorem ranked_separate {m : MemoryStore Policy} (hs : Still m s) (hd : m.Distinct) (hids : m.RuleIds n)
    (hsep : m.Separate) {tenantId : Value} {ranked : List Policy} (h : rankedOf s tenantId = .ok ranked) :
    (ruleIds ranked).Nodup ∧ ∀ p ∈ ranked, Labelled n p.rules := by
  unfold rankedOf at h
  rw [hs] at h
  have hperm : ranked.Perm (m.ofTenant tenantId) := sortDescending_perm h
  refine ⟨nodup_ruleIds_perm (nodup_ruleIds_filter (nodup_ruleIds_records hd hids hsep) _) hperm, fun p hp => ?_⟩
  obtain ⟨⟨k, _⟩, he, rfl⟩ := List.mem_map.mp (List.mem_of_mem_filter (hperm.mem_iff.mp hp))
  exact hids.labelled (hd.lookup_of_mem he)

/-- **A run over policies whose rules have different ids** has a violation for each rule that triggers. -/
theorem Gate.Run.separate {m : MemoryStore Violation} (h : Recording m s) {others : Collaborators}
    {ds : List Dependency} {tenantId : Value} {policies active : List Policy} {c : EvaluationContext}
    {cancel : Cancellation} {r : EnforcementResult} {turns : List (Dependency × Turn)} {s₁ : GateState}
    (hrun : Run others ds tenantId policies c cancel s r active turns s₁) (hids : (ruleIds policies).Nodup)
    (hlabels : ∀ p ∈ policies, Labelled n p.rules) :
    ∃ m', s₁.violations = .memory m' ∧ ∀ e ∈ r.evaluations, e.Separate m' := by
  obtain ⟨m', hwent⟩ := hrun.went h
  obtain ⟨events, hfiling⟩ := hwent.ran.filing
  refine ⟨m', hwent.ran.recording.violations, fun e he => ?_⟩
  rw [hrun.evaluations] at he
  obtain ⟨⟨d, t⟩, ht, executed, rfl⟩ := mem_evaluationsOf.mp he
  have hactive : ∀ p ∈ active, Labelled n p.rules := fun p hp =>
    hlabels p (List.mem_of_mem_filter (mem_of_active hrun.ordered p hp))
  refine Course.separate_ending (hwent.evaluated ht) hfiling h.filed (Plan.findings_subset ht) ?_
  exact nodup_key_findings (nodup_ruleIds_active (nodup_ruleIds_filter hids _) hrun.ordered) hactive

end Evaluations

/-! ## Runs of requests -/

/-- The states that requests with rules without ids lead to, where no update that was written confused rules. -/
inductive Unconfused : GateState → Prop where
  | start (now : Timestamp) (ids : Ids) : Unconfused (.start .memory now ids)
  | request {s : GateState} {r : Request} (reached : Unconfused s) (unlabelled : r.Unlabelled s.now)
    (clear : r.writes s = true → ∀ m, s.policies = .memory m → ¬ r.Confuses s.now m) :
    Unconfused (outcome r.run s).2

section Runs

variable {s : GateState}

theorem Unconfused.reachable (h : Unconfused s) : Reachable (fun _ => True) s := by
  induction h with
  | start now ids => exact .start now ids
  | request _ _ _ ih => exact .request ih trivial

/-- As long as no update confuses rules, the rules of each policy have different ids, and policies share none. -/
theorem Unconfused.separate (h : Unconfused s) :
    ∃ m, Still m s ∧ Upheld m ∧ m.RuleIds (s.ids.count .rule) ∧ m.Separate := by
  induction h with
  | start now ids =>
    exact ⟨.empty, rfl, .empty, .empty _, MemoryStore.Every.empty⟩
  | @request s r reached unlabelled clear ih =>
    obtain ⟨m, hs, hm, hids, hsep⟩ := ih
    obtain ⟨m', hs', hids', hiff, -⟩ := r.relabels hs hm reached.reachable.numbered.unlogged hids unlabelled
    obtain ⟨m₁, hs₁, hm', -⟩ := r.moves hm hs
    obtain rfl : m' = m₁ := Store.memory.inj (hs'.symm.trans hs₁)
    exact ⟨m', hs', hm', hids', (hiff hsep).mpr fun hok => clear hok m hs⟩

/-- An exception for a rule sets no other rule of its policy aside. -/
theorem eq_of_exceptionFor {p : Policy} {n : Nat} (hids : (p.rules.map (·.id)).Nodup) (hlabels : Labelled n p.rules)
    {r r' : Rule} (hr : r ∈ p.rules) (hr' : r' ∈ p.rules) {d : Dependency} {now : Timestamp} {e : PolicyException}
    (he : e.ruleId.same r.id = true) (hfor : p.exceptionFor r' d now = .ok (some e)) : r' = r := by
  have hcovers : e.covers r'.id d.name = true := by
    have hforce := List.find?_some (Policy.exceptionFor_ok hfor).symm
    simp only [PolicyException.inForce, Bool.and_eq_true] at hforce
    exact hforce.1.1
  obtain ⟨i, -, hi⟩ := hlabels r hr
  obtain ⟨j, -, hj⟩ := hlabels r' hr'
  have hsame : e.ruleId.same r'.id = true := (Bool.and_eq_true_iff.mp hcovers).1
  rw [hi] at he
  rw [hj] at hsame
  refine List.inj_on_of_nodup_map hids hr' hr ?_
  calc r'.id = ruleId j := hj
    _ = e.ruleId := (Value.eq_str_of_same hsame).symm
    _ = ruleId i := Value.eq_str_of_same he
    _ = r.id := hi.symm

/-- **When the rules of a policy keep ids of their own.** Say that requests whose rules have no ids lead to a gate,
and that no update that was written confused rules. Then the rules of each policy on record have different ids, an
exception for one of them sets no other one aside, and a run has as many violations, each on record under an id of
its own, as rules that trigger. After any further request whose rules have no ids, the rules of each policy have
different ids just when it does not write an update that confuses rules; which none does whose rules are told apart
by their names. And an update that is written keeps the ids of the rules whose names it keeps. -/
theorem rule_ids_iff (h : Unconfused s) :
    ∃ m, s.policies = .memory m ∧ m.Separate ∧
      (∀ k p, (k, p) ∈ m.records → ∀ r ∈ p.rules, ∀ r' ∈ p.rules, ∀ (e : PolicyException) d now,
        e.ruleId.same r.id = true → p.exceptionFor r' d now = .ok (some e) → r' = r) ∧
      (∀ others ds tenantId c cancel r s', Returns (evaluatePolicies others ds tenantId c cancel) s r s' →
        ∃ violations, s'.violations = .memory violations ∧ ∀ e ∈ r.evaluations, e.Separate violations) ∧
      ∀ r : Request, r.Unlabelled s.now → ∃ m', (outcome r.run s).2.policies = .memory m' ∧
        (m'.Separate ↔ (r.writes s = true → ¬ r.Confuses s.now m)) ∧
        ((∀ rules, r.Brings s.now rules → Apart (rules.map (·.name))) → ¬ r.Confuses s.now m) ∧
        (r.writes s = true → ∀ k u rules, r.Updates s.now m k u → u.rules = some (rules.map .held) →
          ∃ q, m'.lookup k = some q ∧ KeepsIds (m.rulesAt k) rules (q.rules.map (·.id))) := by
  obtain ⟨m, hs, hm, hids, hsep⟩ := h.separate
  obtain ⟨violations, hrecording⟩ := h.reachable.recording
  refine ⟨m, hs, hsep, ?_, ?_, fun r hr => ?_⟩
  · intro k p hp r hr r' hr' e d now he hfor
    exact eq_of_exceptionFor (hsep (k, p) hp) (hids.labelled (hm.distinct.lookup_of_mem hp)) hr hr' he hfor
  · intro others ds tenantId c cancel r s' hr
    obtain ⟨ranked, active, turns, s₁, hranked, hrun, hleft⟩ := evaluatePolicies_left hrecording.unlogged hr
    obtain ⟨hnodup, hlabels⟩ := ranked_separate hs hm.distinct hids hsep hranked
    rw [hleft]
    exact hrun.separate hrecording hnodup hlabels
  · obtain ⟨m', hs', -, hiff, hkeeps⟩ := r.relabels hs hm hrecording.unlogged hids hr
    exact ⟨m', hs', hiff hsep, Request.not_confuses_of_apart, hkeeps⟩

end Runs

section Sample

variable {s : GateState}

open Sample

/-- The request to apply a policy. -/
def applying (p : Policy) : Request := .applyPolicy "t" (.record p) "u"

theorem applying_unlabelled {p : Policy} (h : Bare p.rules) (now : Timestamp) : (applying p).Unlabelled now := by
  rintro rules ⟨q, hq, rfl⟩
  obtain rfl := Except.ok.inj hq
  exact h

/-- Applying a policy without ids of rules to an empty gate confuses none. -/
theorem applying_unconfused {p : Policy} (h : Bare p.rules) : Unconfused (outcome (applying p).run gate).2 := by
  refine .request (.start moment {}) (applying_unlabelled h _) fun _ m hm => ?_
  obtain rfl : MemoryStore.empty = m := Store.memory.inj hm
  rintro ⟨k, u, rules, -, -, hconfused⟩
  have hnone : (MemoryStore.empty : MemoryStore Policy).rulesAt k = [] := MemoryStore.rulesAt_of_none rfl
  exact hconfused (by simp [hnone, lastNamed])

/-- The two rules of a policy that was applied have different ids. -/
theorem rule_ids_iff_couple :
    Unconfused (outcome (applying couple).run gate).2 ∧ ∃ m e,
      (outcome (applying couple).run gate).2.policies = .memory m ∧ e ∈ m.records ∧
        e.2.rules.length = 2 ∧ (e.2.rules.map (·.id)).Nodup := by
  have hreached : Unconfused (outcome (applying couple).run gate).2 :=
    applying_unconfused (by simp [Bare, couple, policy, rule]; decide)
  obtain ⟨m, hm, hsep, -⟩ := rule_ids_iff hreached
  obtain ⟨m₀, e, hm₀, he, hlength⟩ : ∃ m e, (outcome (applying couple).run gate).2.policies = .memory m ∧
      e ∈ m.records ∧ e.2.rules.length = 2 := ⟨_, _, rfl, List.mem_cons_self, rfl⟩
  obtain rfl : m₀ = m := Store.memory.inj (hm₀.symm.trans hm)
  exact ⟨hreached, m₀, e, hm, he, hlength, hsep e he⟩

/-- Two rules of a policy on record have the id with a number, and it has no others. -/
def sharing (n : Nat) (s : GateState) : Bool :=
  match s.policies with
  | .memory m => m.records.any fun e =>
    match e.2.rules.map (·.id) with
    | [id, id'] => id.same (ruleId n) && id'.same (ruleId n)
    | _ => false
  | .documents _ => false

theorem of_sharing {n : Nat} (h : sharing n s = true) :
    ∃ m e, s.policies = .memory m ∧ e ∈ m.records ∧ e.2.rules.map (·.id) = [ruleId n, ruleId n] := by
  unfold sharing at h
  split at h
  · next m hm =>
    obtain ⟨e, he, hids⟩ := List.any_eq_true.mp h
    split at hids
    · next id id' hrules =>
      obtain ⟨hid, hid'⟩ := Bool.and_eq_true_iff.mp hids
      exact ⟨m, e, hm, he, by rw [hrules, Value.eq_str_of_same hid, Value.eq_str_of_same hid']; rfl⟩
    · cases hids
  · cases h

/-- Of two rules with one name, the first is given the id of the second when the policy is applied again. -/
theorem twins_share_id :
    Unconfused (outcome (applying twins).run gate).2 ∧ (applying twins).Unlabelled moment ∧
      (outcome (applying twins).run (outcome (applying twins).run gate).2).1 = .ok () ∧
      ∃ m e, (outcome (applying twins).run (outcome (applying twins).run gate).2).2.policies = .memory m ∧
        e ∈ m.records ∧ e.2.rules.map (·.id) = [ruleId 2, ruleId 2] := by
  have hbare : Bare twins.rules := by simp [Bare, twins, policy, rule]; decide
  have hanswered : (outcome (applying twins).run (outcome (applying twins).run gate).2).1.isOk = true := by
    decide +kernel
  have hsharing : sharing 2 (outcome (applying twins).run (outcome (applying twins).run gate).2).2 = true := by
    decide +kernel
  refine ⟨applying_unconfused hbare, applying_unlabelled hbare _, ?_, of_sharing hsharing⟩
  generalize (outcome (applying twins).run (outcome (applying twins).run gate).2).1 = answer at hanswered
  cases answer with
  | ok => rfl
  | error => cases hanswered

end Sample

end SupplyGate
