import SupplyGate.Proofs.Session.Invariants

/-!
# Findings keep their identity

A service finds a violation again by a text in which tenant, policy, rule and dependency stand with
bars between them. Over every run of requests its violations stay filed by these texts. So an
evaluation gives a finding the identity that it asks for, and leaves the finding alone when it asks
for others, just when no other finding has its text (`identified_and_isolated_iff`).
-/

namespace SupplyGate

open Gate

/-- What is found for a rule of a policy is of that rule, if it is the finding `q`. -/
def Names (q : Identity) (d : Dependency) (pr : Policy × Rule) (v : Violation) : Prop :=
  Identity.of pr d = q → v.identity = q

/-- Wherever requests lead, evaluations give the finding `q` a violation with its identity. -/
def Identified (q : Identity) : Prop :=
  ∀ s, Reachable (fun _ => True) s →
    (∀ d policies c e s', Returns (evaluateDependency d policies c) s e s' →
      Reported (Names q d) d policies c e) ∧
    ∀ others ds tenantId c cancel r s',
      Returns (evaluatePolicies others ds tenantId c cancel) s r s' →
      ∀ e ∈ r.evaluations, ∃ d ∈ ds, ∃ active,
        (∀ p ∈ active, p.tenantId.same tenantId = true) ∧ Reported (Names q d) d active c e

/-- A violation is on record. -/
def OnRecord (k : Key) (w : Violation) (s : GateState) : Prop :=
  ∃ m, s.violations = .memory m ∧ m.lookup k = some w

/-- A step from a state leaves a violation on record as it is, and gives out none of its identity. -/
def Spares {α : Type} (k : Key) (w : Violation) (x : Gate α) (given : α → List Violation)
    (s : GateState) : Prop :=
  OnRecord k w (outcome x s).2 ∧ ∀ a s', Returns x s a s' → ∀ v ∈ given a, v.identity ≠ w.identity

/-- The findings of a run. -/
def findingsOf (r : EnforcementResult) : List Violation := r.evaluations.flatMap Evaluation.findings

/-- Wherever requests lead, a violation of the finding `q` is spared by every evaluation of other
findings, and by every run for another tenant. -/
def Isolated (q : Identity) : Prop :=
  ∀ s, Reachable (fun _ => True) s → ∀ k w, OnRecord k w s → w.identity = q →
    (∀ d policies c, (∀ p ∈ policies, ∀ r ∈ p.rules, Identity.of (p, r) d ≠ q) →
      Spares k w (evaluateDependency d policies c) Evaluation.findings s) ∧
    ∀ others ds tenantId c cancel, q.tenantId.same tenantId = false →
      Spares k w (evaluatePolicies others ds tenantId c cancel) findingsOf s

theorem OnRecord.holds {k : Key} {w : Violation} {s : GateState} (h : OnRecord k w s)
    (hs : FiledWith (fun _ => True) s) : Holds k w s := by
  obtain ⟨m, hm, hk⟩ := h
  obtain ⟨m', hm', hfiled, -⟩ := hs
  obtain rfl : m = m' := by simpa [hm] using hm'
  exact ⟨m, hm, hfiled, hk⟩

theorem OnRecord.of_holds {k : Key} {w : Violation} {s : GateState} (h : Holds k w s) : OnRecord k w s := by
  obtain ⟨m, hm, -, hk⟩ := h
  exact ⟨m, hm, hk⟩

/-! ## Findings on record -/

/-- Every violation on record has ids that can be written. -/
def AllWritten : GateState → Prop := FiledWith fun m => m.Every fun _ v => v.identity.Written

/-- A finding that is detected has ids that can be written, and so has the violation that it gets, under its text. -/
theorem allWritten_detect {p : Policy} {r : Rule} {d : Dependency} {o : ConditionOutcome}
    {c : EvaluationContext} {now : Timestamp} :
    Yields AllWritten (detect p r d o c now) fun v =>
      (Identity.of (p, r) d).Written ∧ v.identity.Written ∧ v.key = (Identity.of (p, r) d).key := by
  refine yields_detect_stored fun m t v found hfiled hm hv hwritten _ hg => ?_
  have hkey : found.record.key = (Identity.of (p, r) d).key := by
    rw [hfiled.getOrAdd_key hg, Violation.key_eq, hv]
  have hstored : t.Every (fun _ v => v.identity.Written) ∧ found.record.identity.Written := by
    rcases MemoryStore.getOrAdd_ok hg with ⟨k, old, hr⟩ | ⟨k, ha⟩
    · obtain ⟨hold, -, rfl⟩ := hfiled.refreshed hr
      have hseen : (Finding.seenAgain now v old).identity.Written := by
        rw [Finding.identity_seenAgain]
        exact hm.lookup hold
      rw [hr.found_eq]
      exact ⟨hm.store hseen, hseen⟩
    · rw [ha.found_eq, ha.store_eq]
      exact ⟨hm.store (k := k) hwritten, hwritten⟩
  exact ⟨hstored.1, hv ▸ hwritten, hstored.2, hkey⟩

theorem allWritten_law : Law AllWritten (fun _ => True) (fun _ => True) where
  toRunLaw := filedWith_runLaw _
  checked _ _ := trivial
  alike _ _ _ _ := trivial
  stored _ _ := trivial
  found _ _ _ _ _ := trivial
  listed _ _ _ _ _ _ _ := trivial
  every _ _ _ _ _ _ := trivial
  added _ _ _ hs _ _ := hs
  put _ _ _ hs _ _ := hs
  deleted _ _ _ _ hs _ := hs
  triaged s id v w t hs hv htriaged ht := by
    obtain ⟨m, hm, hfiled, hwritten⟩ := hs
    rw [hm] at hv ht
    obtain ⟨m', hm', rfl⟩ := Store.put_memory.mp ht
    have hid : w.id = v.id := by rw [htriaged]
    have hidentity : w.identity = v.identity := by
      rw [htriaged]
      rfl
    obtain ⟨k, hk, rfl⟩ := MemoryStore.put_back hfiled.keyed hv hid hm'
    have hw : w.identity.Written := hidentity ▸ hwritten.lookup hk
    refine ⟨_, rfl, hfiled.put hv hid ?_ hm', hwritten.store hw⟩
    rw [Violation.key_eq, hidentity, ← Violation.key_eq]
  detected _ _ _ _ _ _ _ _ := allWritten_detect.keeps
  strategy _ _ _ hs _ := hs
  clocked _ _ hs := hs

theorem Reachable.allWritten {allowed : Request → Prop} {s : GateState} (h : Reachable allowed s) : AllWritten s :=
  h.keeps (fun _ _ => ⟨.empty, rfl, .empty, .empty⟩) fun r _ =>
    allWritten_law.keeps_request r fun _ _ _ _ _ _ => trivial

theorem OnRecord.written {k : Key} {w : Violation} {s : GateState} (h : OnRecord k w s) (hs : AllWritten s) :
    w.identity.Written := by
  obtain ⟨m, hm, hk⟩ := h
  obtain ⟨m', hm', -, hwritten⟩ := hs
  obtain rfl : m = m' := by simpa [hm] using hm'
  exact hwritten.lookup hk

/-! ## Findings with a text of their own -/

section Unshared

variable {q : Identity} (hq : q.Written → q.Unshared)
include hq

theorem yields_names {p : Policy} {r : Rule} {d : Dependency} {o : ConditionOutcome}
    {c : EvaluationContext} {now : Timestamp} :
    Yields AllWritten (detect p r d o c now) (Names q d (p, r)) :=
  allWritten_detect.mono fun v ⟨hof, hv, hkey⟩ he => (hq (he ▸ hof)).eq_identity hv (by rw [hkey, he])

theorem identified_of_unshared : Identified q := by
  intro s hs
  refine ⟨fun d policies c e s' h => ?_, fun others ds tenantId c cancel r s' h => ?_⟩
  · exact ((yields_evaluateDependency fun p _ r _ o now => yields_names hq).returns hs.allWritten h).2
  · exact (((filedWith_runLaw _).yields_evaluatePolicies (R := Names q)
      fun p _ r _ d _ o now => yields_names hq).returns hs.allWritten h).2

/-- Detecting another finding leaves a violation of `q` as it is, and gives out another one. -/
theorem holds_detect_other {k : Key} {w : Violation} (hw : w.identity = q) (hwritten : w.identity.Written) {p : Policy}
    {r : Rule} {d : Dependency} (hne : Identity.of (p, r) d ≠ q) {o : ConditionOutcome} {c : EvaluationContext}
    {now : Timestamp} :
    Yields (Holds k w) (detect p r d o c now) fun v => v.identity ≠ w.identity := by
  refine yields_detect_stored fun m t v found hfiled hk hv hof _ hg => ?_
  have hkey : w.key ≠ v.key := by
    rw [Violation.key_eq, Violation.key_eq, hw, hv]
    exact fun he => hne ((hq (hw ▸ hwritten)).eq_of (hv ▸ hof) he.symm)
  refine ⟨hfiled.getOrAdd_frame hg hk hkey, fun he => hkey ?_⟩
  rw [← hfiled.getOrAdd_key hg, Violation.key_eq, Violation.key_eq, he]

theorem isolated_of_unshared : Isolated q := by
  intro s hs k w hk hw
  have hholds := hk.holds hs.filed
  have hwritten := hk.written hs.allWritten
  refine ⟨fun d policies c hother => ?_, fun others ds tenantId c cancel htenant => ?_⟩
  · have hrun : Yields (Holds k w) (evaluateDependency d policies c)
        (Reported (fun _ v => v.identity ≠ w.identity) d policies c) :=
      yields_evaluateDependency fun p hp r hr o now => holds_detect_other hq hw hwritten (hother p hp r hr)
    refine ⟨.of_holds (hrun s hholds).1, fun e s' h => ?_⟩
    exact (hrun.returns hholds h).2.findings
  · have hrun : Yields (Holds k w) (evaluatePolicies others ds tenantId c cancel) fun r =>
        ∀ e ∈ r.evaluations, ∃ d ∈ ds, ∃ active, (∀ p ∈ active, p.tenantId.same tenantId = true) ∧
          Reported (fun _ v => v.identity ≠ w.identity) d active c e := by
      refine (filedWith_runLaw _).yields_evaluatePolicies fun p hp r _ d _ o now =>
        holds_detect_other hq hw hwritten fun he => ?_
      rw [← congrArg Identity.tenantId he] at htenant
      exact absurd (hp.symm.trans htenant) (by simp)
    refine ⟨.of_holds (hrun s hholds).1, fun r s' h v hv => ?_⟩
    obtain ⟨e, he, hve⟩ := List.mem_flatMap.mp hv
    obtain ⟨d, -, active, -, hrep⟩ := (hrun.returns hholds h).2 e he
    exact hrep.findings v hve

end Unshared

/-! ## Findings with the text of another one -/

section Shared

open Sample

/-- A policy whose one rule fires on every dependency. -/
def alarm (tenantId policyId ruleId : Value) : Policy :=
  policy tenantId policyId [rule ruleId (absent "x")] []

/-- A dependency of the same identity, by a name that is a text, of which nothing is known about updates. -/
def Dependency.bare (d : Dependency) : Dependency := { d with name := .str d.name.rendered, lastUpdate := .null }

/-- The evaluation data of a bare dependency. -/
def bareData (d : Dependency) : EvaluationData := ⟨d.bare, .empty, [], none, none⟩

theorem data_of_bare (d : Dependency) (now : Timestamp) : EvaluationData.of d.bare .empty now = .ok (bareData d) := rfl

variable {tenantId policyId ruleId : Value} {d : Dependency}

theorem alarm_ready (hq : (Identity.mk tenantId policyId ruleId d.ident).Written) (now : Timestamp) :
    Ready d.bare [alarm tenantId policyId ruleId] .empty now := by
  refine ⟨_, _, data_of_bare d now, Policy.active_singleton rfl, ?_⟩
  simp only [List.mem_singleton, forall_eq]
  refine ⟨⟨_, rfl⟩, fun _ => ?_⟩
  simp only [alarm, policy, List.mem_singleton, forall_eq]
  refine fun _ => ⟨⟨none, rfl⟩, fun _ => ⟨_, rfl⟩, fun _ => ⟨⟨_, rfl⟩, rfl, ⟨_, rfl⟩, ?_⟩⟩
  simpa [Identity.Written, Finding.parts, Dependency.bare, rule] using hq

/-- An evaluation against the policy reports the one finding. -/
theorem alarm_warning {R : Policy × Rule → Violation → Prop} {e : Evaluation}
    (h : Reported R d.bare [alarm tenantId policyId ruleId] .empty e) :
    ∃ v, e.warnings = [v] ∧ R (alarm tenantId policyId ruleId, rule ruleId (absent "x")) v := by
  obtain ⟨data, now, order, hdata, horder, hR⟩ := h
  rw [Policy.active_singleton rfl, Except.ok.injEq] at horder
  subst horder
  have hwarn := hR.warnings
  obtain rfl : bareData d = data := Except.ok.inj ((data_of_bare d now).symm.trans hdata)
  change List.Forall₂ R [(alarm tenantId policyId ruleId, rule ruleId (absent "x"))] e.warnings at hwarn
  generalize e.warnings = ws at hwarn
  cases hwarn with
  | cons hv hnil =>
    cases hnil
    exact ⟨_, rfl, hv⟩

/-- The course of an evaluation against the policy has the one finding. -/
theorem alarm_course (hq : (Identity.mk tenantId policyId ruleId d.ident).Written) (now : Timestamp) :
    ∃ v, (dependencyCourse d.bare .empty now [alarm tenantId policyId ruleId]).findings = [v] ∧
      v.identity = ⟨tenantId, policyId, ruleId, d.ident⟩ := by
  have hparts : Value.checkAll (Finding.parts (alarm tenantId policyId ruleId) (rule ruleId (absent "x")) d.bare) =
      .ok () := by
    refine Value.checkAll_eq_ok.mpr ?_
    simpa [Identity.Written, Finding.parts, Dependency.bare, alarm, policy, rule] using hq
  have hfinding : ∀ o, findingCourse d.bare .empty now (alarm tenantId policyId ruleId) (rule ruleId (absent "x")) o =
      .note (.found (rule ruleId (absent "x")) (Finding.violationOf (alarm tenantId policyId ruleId)
        (rule ruleId (absent "x")) d.bare o .empty now .other .null ⟨[], "", "", [], none, "MEDIUM"⟩)) := by
    intro o
    unfold findingCourse findingMetadata
    rw [hparts]
    rfl
  have hactive : Policy.active [alarm tenantId policyId ruleId] = .ok [alarm tenantId policyId ruleId] :=
    Policy.active_singleton rfl
  obtain ⟨o, ho, htriggered⟩ : ∃ o, ConditionOutcome.of Field.standard (bareData d) [absent "x"] = .ok o ∧
      o.triggered = true := ⟨_, rfl, rfl⟩
  have hrule : ruleCourse d.bare (bareData d) .empty now (alarm tenantId policyId ruleId) (rule ruleId (absent "x")) =
      findingCourse d.bare .empty now (alarm tenantId policyId ruleId) (rule ruleId (absent "x")) o := by
    have hunwaived : (alarm tenantId policyId ruleId).exceptionFor (rule ruleId (absent "x")) d.bare now = .ok none := rfl
    rw [ruleCourse, if_pos (show (rule ruleId (absent "x")).enabled.truthy = true from rfl), hunwaived]
    simp only [Course.reading, show (rule ruleId (absent "x")).conditions = [absent "x"] from rfl, ho, htriggered, if_true]
  rw [hfinding] at hrule
  simp only [dependencyCourse, data_of_bare, Course.reading, hactive]
  change ∃ v, (((Course.note (.taken policyId)).andThen ((ruleCourse d.bare (bareData d) .empty now
    (alarm tenantId policyId ruleId) (rule ruleId (absent "x"))).andThen .empty)).andThen .empty).findings = [v] ∧ _
  rw [hrule]
  exact ⟨_, rfl, rfl⟩

/-- After the first evaluation against the policy, the text of the finding leads to a violation that is of it. -/
theorem alarm_filed (hq : (Identity.mk tenantId policyId ruleId d.ident).Written) :
    FiledWith (fun m => ∃ k w, m.byIndex (Identity.mk tenantId policyId ruleId d.ident).key = some (k, w) ∧
        w.identity = ⟨tenantId, policyId, ruleId, d.ident⟩)
      (outcome (evaluateDependency d.bare [alarm tenantId policyId ruleId] .empty) gate).2 := by
  have hgate : Recording .empty gate := ⟨rfl, rfl, .empty, .empty, .empty, rfl⟩
  obtain ⟨v, hv, hidentity⟩ := alarm_course hq (evaluationTime .empty gate)
  obtain ⟨_, m, events, s, ho, hrec, -⟩ := evaluateDependency_recorded hgate rfl d.bare [alarm tenantId policyId ruleId]
  rw [hv] at hrec
  rw [ho]
  refine ⟨m, hrec.recording.violations, hrec.recording.filed, ?_⟩
  cases hrec.filing with
  | cons new named stored rest =>
    cases rest
    obtain ⟨k, hk⟩ := (MemoryStore.Filed.empty.files new named stored).here
    refine ⟨k, _, by rwa [← hidentity], ?_⟩
    rcases MemoryStore.getOrAdd_ok stored with ⟨l, old, hr⟩ | ⟨l, ha⟩
    · cases hr.here
    · rw [ha.found_eq]
      exact hidentity

/-- A finding that shares its text with another one gets the violation of that one, once it is on
record. -/
theorem shared_warning {tenantId' policyId' ruleId' : Value} {d' : Dependency}
    (hq : (Identity.mk tenantId policyId ruleId d.ident).Written)
    (hq' : (Identity.mk tenantId' policyId' ruleId' d'.ident).Written)
    (hkey : (Identity.mk tenantId' policyId' ruleId' d'.ident).key =
      (Identity.mk tenantId policyId ruleId d.ident).key) :
    ∃ s e s' v, Reachable (fun _ => True) s ∧
      Returns (evaluateDependency d.bare [alarm tenantId policyId ruleId] .empty) s e s' ∧
      e.warnings = [v] ∧ v.identity = ⟨tenantId', policyId', ruleId', d'.ident⟩ := by
  let first : Request := .evaluateDependency d'.bare [alarm tenantId' policyId' ruleId'] .empty
  let s := (outcome first.run gate).2
  have hs : Reachable (fun _ => True) s := .request (.start moment {}) trivial
  have hfiled : FiledWith (fun m => ∃ k w, m.byIndex (Identity.mk tenantId policyId ruleId d.ident).key =
      some (k, w) ∧ w.identity = ⟨tenantId', policyId', ruleId', d'.ident⟩) s := by
    rw [← hkey, show s = (outcome (evaluateDependency d'.bare [alarm tenantId' policyId' ruleId'] .empty) gate).2 from
      congrArg Prod.snd (outcome_discard _ _)]
    exact alarm_filed hq'
  obtain ⟨e, s', he⟩ : Succeeds (evaluateDependency d.bare [alarm tenantId policyId ruleId] .empty) s :=
    (succeeds_evaluateDependency_iff hs.numbered).mpr (alarm_ready hq _)
  have hfound : Reported (fun _ v => v.identity = ⟨tenantId', policyId', ruleId', d'.ident⟩)
      d.bare [alarm tenantId policyId ruleId] .empty e := by
    refine ((yields_evaluateDependency fun p hp r hr o now => ?_).returns hfiled he).2
    obtain rfl := List.mem_singleton.mp hp
    obtain rfl := List.mem_singleton.mp hr
    have hof : Identity.of (alarm tenantId policyId ruleId, rule ruleId (absent "x")) d.bare =
        ⟨tenantId, policyId, ruleId, d.ident⟩ := rfl
    exact yields_detect_found (congrArg Identity.key hof)
  obtain ⟨v, hv, hvq⟩ := alarm_warning hfound
  exact ⟨s, e, s', v, hs, he, hv, hvq⟩

theorem Identified.unshared (h : Identified ⟨tenantId, policyId, ruleId, d.ident⟩)
    (hq : (Identity.mk tenantId policyId ruleId d.ident).Written) :
    Identity.Unshared ⟨tenantId, policyId, ruleId, d.ident⟩ := by
  intro tenantId' policyId' ruleId' d' hq' hkey
  obtain ⟨s, e, s', v, hs, he, hv, hvq⟩ := shared_warning hq hq' hkey
  obtain ⟨v', hv', hnamed⟩ := alarm_warning ((h s hs).1 _ _ _ _ _ he)
  obtain rfl : v = v' := by simpa [hv] using hv'
  exact hvq.symm.trans (hnamed rfl)

end Shared

/-- **Findings keep their identity just when their texts are clear.** Wherever requests lead, every
evaluation gives the finding of a rule of a policy about a dependency a violation of that tenant,
policy, rule and dependency, and evaluations of other findings and runs for other tenants leave it
alone and do not give it out, just when the parts of its text tell what they are: no id has a bar or
shares its text with another value, and no bar of the dependency comes before its version. A finding
with an id that cannot be written is never recorded. -/
theorem identified_and_isolated_iff (tenantId policyId ruleId : Value) (d : Dependency) :
    Identified ⟨tenantId, policyId, ruleId, d.ident⟩ ∧ Isolated ⟨tenantId, policyId, ruleId, d.ident⟩ ↔
      (Identity.Written ⟨tenantId, policyId, ruleId, d.ident⟩ → Identity.Clear ⟨tenantId, policyId, ruleId, d.ident⟩) := by
  constructor
  · rintro ⟨hidentified, -⟩ hq
    exact (Identity.unshared_iff hq).mp (hidentified.unshared hq)
  · intro hclear
    have hq : Identity.Written ⟨tenantId, policyId, ruleId, d.ident⟩ →
        Identity.Unshared ⟨tenantId, policyId, ruleId, d.ident⟩ := fun hq => (Identity.unshared_iff hq).mpr (hclear hq)
    exact ⟨identified_of_unshared hq, isolated_of_unshared hq⟩

/-- A tenant with a bar in its id is given a violation of another tenant. -/
theorem violation_of_other_tenant :
    ∃ s e s' v, Reachable (fun _ => True) s ∧
      Returns (evaluateDependency (Sample.dependency "lib") [alarm "a|b" "p" "r"] .empty) s e s' ∧
      e.warnings = [v] ∧ v.tenantId = "a" ∧ v.policyId = "b|p" := by
  have hkey : (Identity.mk "a" "b|p" "r" (Sample.dependency "lib").ident).key =
      (Identity.mk "a|b" "p" "r" (Sample.dependency "lib").ident).key := by decide
  have hwritten : ∀ t p r : String, (Identity.mk t p r (Sample.dependency "lib").ident).Written := by
    simp [Identity.Written]
  obtain ⟨s, e, s', v, hs, he, hv, hvq⟩ := shared_warning (hwritten _ _ _) (hwritten _ _ _) hkey
  exact ⟨s, e, s', v, hs, he, hv, congrArg Identity.tenantId hvq, congrArg Identity.policyId hvq⟩

end SupplyGate
