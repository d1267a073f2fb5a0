import SupplyGate.Proofs.Gate.Planned
import SupplyGate.Proofs.Gate.Summary
import SupplyGate.Proofs.Session.Identity
import SupplyGate.Proofs.Session.Independence
import SupplyGate.Proofs.Store.Refiling

/-!
# Grades of findings

A rule grades its findings: it gives them its severity, its type and its tags. A finding that is detected
for the first time is reported so. But the record of one that was detected before keeps the grades of the
rule as it was then, while its details name the rule as it is now. So the findings that are reported
agree with their rules just when their origins do (`findings_graded_iff`).
-/

namespace SupplyGate

open Gate
open MemoryStore (Filing recorded)

/-- A violation has the severity, the type and the tags that a rule gives to its findings. -/
structure Violation.GradedBy (v : Violation) (r : Rule) : Prop where
  severity : v.severity = r.severity
  type : v.type = r.type
  tags : ∃ metadata, r.metadata = .held metadata ∧ v.tags = metadata.tags

/-- Grades are part of the stamp of a violation. -/
theorem Violation.GradedBy.congr {v w : Violation} (h : v.stamp = w.stamp) (r : Rule) :
    v.GradedBy r ↔ w.GradedBy r := by
  have hseverity : v.severity = w.severity := congrArg Stamp.severity h
  have htype : v.type = w.type := congrArg Stamp.type h
  have htags : v.tags = w.tags := congrArg Stamp.tags h
  constructor
  · rintro ⟨h₁, h₂, h₃⟩
    exact ⟨hseverity ▸ h₁, htype ▸ h₂, htags ▸ h₃⟩
  · rintro ⟨h₁, h₂, h₃⟩
    exact ⟨hseverity ▸ h₁, htype ▸ h₂, htags ▸ h₃⟩

/-- A finding is graded by its rule before anything on record comes into it. -/
theorem graded_finding {d : Dependency} {c : EvaluationContext} {now : Timestamp} {policies : List Policy}
    {v : Violation} (hv : v ∈ (dependencyCourse d c now policies).findings) : v.GradedBy v.details.rule := by
  obtain ⟨p, -, r, -, outcome, topic, metadata, hmetadata, rfl⟩ := violationOf_of_mem_findings hv
  exact ⟨rfl, rfl, metadata, hmetadata, rfl⟩

/-- A table depends on the severities only by how often each is there. -/
theorem Tabulates.perm {counts : List (Scalar × Value)} {ss ss' : List (Loose Severity)}
    (h : Tabulates counts ss) (hp : ss.Perm ss') : Tabulates counts ss' := by
  intro level
  rw [h level, hp.countP_eq]

section Records

variable {now : Timestamp} {m m' : MemoryStore Violation} {vs : List Violation} {events : List Event}

/-- The record of a finding is graded by its rule just when the origin of the finding is. -/
theorem graded_recorded_iff (h : Filing now m vs m' events) (hm : m.Filed) {f : Violation} (hf : f ∈ vs) :
    (recorded now m' f).GradedBy (recorded now m' f).details.rule ↔ (m.origin vs f).GradedBy f.details.rule := by
  rw [MemoryStore.details_recorded]
  exact Violation.GradedBy.congr (h.stamp_recorded hm (.refl m') f hf) _

/-- The same of the reports on some of the findings that were filed. -/
theorem graded_reports_iff (h : Filing now m vs m' events) (hm : m.Filed) {reported reports : List Violation}
    (hsub : reported ⊆ vs) (hp : reports.Perm (reported.map (recorded now m'))) :
    (∀ v ∈ reports, v.GradedBy v.details.rule) ↔ ∀ f ∈ reported, (m.origin vs f).GradedBy f.details.rule := by
  constructor
  · intro hreports f hf
    have hmem : recorded now m' f ∈ reports := hp.mem_iff.mpr (List.mem_map_of_mem hf)
    exact (graded_recorded_iff h hm (hsub hf)).mp (hreports _ hmem)
  · intro horigins v hv
    obtain ⟨f, hf, rfl⟩ := List.mem_map.mp (hp.mem_iff.mp hv)
    exact (graded_recorded_iff h hm (hsub hf)).mpr (horigins f hf)

end Records

section Runs

variable {m : MemoryStore Violation} {s : GateState}

theorem evaluateDependency_graded_iff (h : Recording m s) {d : Dependency} {policies : List Policy}
    {c : EvaluationContext} {e : Evaluation} {s' : GateState}
    (he : Returns (evaluateDependency d policies c) s e s') :
    (∀ v ∈ e.findings, v.GradedBy v.details.rule) ↔
      ∀ f ∈ (dependencyCourse d c (evaluationTime c s) policies).findings,
        (m.origin (dependencyCourse d c (evaluationTime c s) policies).findings f).GradedBy f.details.rule := by
  cases hstop : (dependencyCourse d c (evaluationTime c s) policies).stop with
  | some f =>
    obtain ⟨m', events, s'', hf, -⟩ := evaluateDependency_stopped h rfl hstop
    cases he.symm.trans hf
  | none =>
    obtain ⟨e', m', events, s'', he', hr, hres⟩ := evaluateDependency_finished h rfl hstop
    obtain ⟨rfl, rfl⟩ : e = e' ∧ s' = s'' := by simpa using he.symm.trans he'
    refine graded_reports_iff hr.filing h.filed (List.Subset.refl _) ?_
    rw [hres m' (.refl m')]
    exact Course.perm_tally _ _

/-- The findings that a run reports are those of the plan that its turns took, as they are on record. -/
theorem Gate.Run.perm_findings {others : Collaborators} {ds : List Dependency} {tenantId : Value}
    {policies active : List Policy} {c : EvaluationContext} {cancel : Cancellation} {r : EnforcementResult}
    {turns : List (Dependency × Turn)} {s₁ : GateState} (h : Recording m s)
    (hrun : Run others ds tenantId policies c cancel s r active turns s₁) :
    let p := Plan.taken active c (evaluationTime c s) turns
    ∃ m' events, Filing (evaluationTime c s) m p.findings m' events ∧
      (findingsOf r).Perm (p.reported.map (recorded (evaluationTime c s) m')) := by
  obtain ⟨m', hwent⟩ := hrun.went h
  obtain ⟨events, hf⟩ := hwent.ran.filing
  refine ⟨m', events, hf, ?_⟩
  rw [findingsOf, hrun.evaluations, evaluationsOf_eq, hwent.endings turns rfl m' (.refl m')]
  exact Plan.perm_findings ..

end Runs

/-- **Reported findings agree with their rules just when their origins do.** Wherever requests lead, the
findings that an evaluation of a dependency returns, and those that a run over the stored policies of a
tenant reports, have the severity, the type and the tags of the rules that their details name just when
the violations that they go back to have: those on record under their texts, or else the first findings
of the evaluation with their texts. If they do, the breakdown by severity counts the severities of the
rules that fired in the run. -/
theorem findings_graded_iff {allowed : Request → Prop} {s : GateState} (h : Reachable allowed s) :
    ∃ m, s.violations = .memory m ∧
      (∀ d policies c e s', Returns (evaluateDependency d policies c) s e s' →
        let found := (dependencyCourse d c (evaluationTime c s) policies).findings
        ((∀ v ∈ e.findings, v.GradedBy v.details.rule) ↔
          ∀ f ∈ found, (m.origin found f).GradedBy f.details.rule)) ∧
      ∀ others ds tenantId c cancel r s', Returns (evaluatePolicies others ds tenantId c cancel) s r s' →
        ∃ ranked active turns s₁, rankedOf s tenantId = .ok ranked ∧
          Run others ds tenantId ranked c cancel s r active turns s₁ ∧
          let p := Plan.taken active c (evaluationTime c s) turns
          ((∀ v ∈ findingsOf r, v.GradedBy v.details.rule) ↔
            ∀ f ∈ p.reported, (m.origin p.findings f).GradedBy f.details.rule) ∧
          ((∀ v ∈ findingsOf r, v.GradedBy v.details.rule) →
            Tabulates r.summary.severityBreakdown (p.reported.map (·.details.rule.severity))) := by
  obtain ⟨m, hm⟩ := h.recording
  refine ⟨m, hm.violations, fun d policies c e s' he => evaluateDependency_graded_iff hm he, ?_⟩
  intro others ds tenantId c cancel r s' hr
  obtain ⟨ranked, active, turns, s₁, hranked, hrun⟩ := evaluatePolicies_run hm.unlogged hr
  obtain ⟨m', events, hf, hperm⟩ := hrun.perm_findings hm
  refine ⟨ranked, active, turns, s₁, hranked, hrun, ?_, fun hgraded => ?_⟩
  · exact graded_reports_iff hf hm.filed (Plan.reported_subset _) hperm
  · have hcounts := tabulates_summarize hrun.summary
    rw [← hrun.evaluations] at hcounts
    have hseverities : (findingsOf r).map (·.severity) = (findingsOf r).map (·.details.rule.severity) :=
      List.map_congr_left fun v hv => (hgraded v hv).severity
    refine Tabulates.perm (hseverities ▸ hcounts) ?_
    have hrules := hperm.map (·.details.rule.severity)
    rw [List.map_map] at hrules
    refine hrules.trans (.of_eq (List.map_congr_left fun f _ => ?_))
    exact congrArg (·.rule.severity) (MemoryStore.details_recorded _ m' f)

section Sample

open Sample

/-- A policy whose one rule fires on every dependency, with some severity. -/
def graded (severity : Severity) : Policy :=
  policy "t" "p" [{ rule "r" (absent "x") with severity := .held severity }] []

/-- The service after the dependency was evaluated against the policy with a low severity. -/
def lenient : GateState :=
  (outcome (Request.evaluateDependency (dependency "lib") [graded .low] .empty).run gate).2

theorem lenient_reachable : Reachable (fun _ => True) lenient := .request (.start moment {}) trivial

/-- An evaluation of the dependency finds one violation, whatever is on record. -/
theorem graded_course (severity : Severity) : ∃ v,
    (dependencyCourse (dependency "lib") .empty moment [graded severity]).findings = [v] := by
  unfold dependencyCourse
  rw [Policy.active_singleton rfl]
  exact ⟨_, rfl⟩

theorem findings_graded_iff_gate :
    Reachable (fun _ => True) gate ∧
      ∃ e s', Returns (evaluateDependency (dependency "lib") [graded .low] .empty) gate e s' ∧
        ∀ v ∈ e.findings, v.GradedBy v.details.rule := by
  have hgate : Reachable (fun _ => True) gate := .start moment {}
  obtain ⟨m, hm, hiff, -⟩ := findings_graded_iff hgate
  obtain ⟨e, s', he⟩ : Succeeds (evaluateDependency (dependency "lib") [graded .low] .empty) gate := by
    unfold Succeeds Returns
    rw [evaluateDependency_eq, Policy.active_singleton rfl]
    exact ⟨_, _, rfl⟩
  refine ⟨hgate, e, s', he, (hiff _ _ _ _ _ he).mpr fun f hf => ?_⟩
  -- Nothing is on record, so the one finding goes back to itself.
  obtain ⟨v, hfound⟩ := graded_course .low
  have hnone : m.byIndex f.key = none := by
    obtain rfl : MemoryStore.empty = m := Store.memory.inj hm
    rfl
  have hgraded := graded_finding hf
  rw [show evaluationTime .empty gate = moment from rfl, hfound] at hf ⊢
  obtain rfl := List.mem_singleton.mp hf
  rwa [MemoryStore.origin_cons_self hnone]

/-- The severity of the rule was raised since its finding was first recorded, and the finding that is
reported has the old one. -/
theorem raised_severity_not_reported :
    ∃ s e s' v, Reachable (fun _ => True) s ∧
      Returns (evaluateDependency (dependency "lib") [graded .critical] .empty) s e s' ∧ v ∈ e.findings ∧
      v.details.rule.severity = .held .critical ∧ v.severity = .held .low := by
  have hactive : ∀ severity, Policy.active [graded severity] = .ok [graded severity] :=
    fun _ => Policy.active_singleton rfl
  obtain ⟨e, s', v, he, hv, hrule, hseverity⟩ : ∃ e s' v,
      Returns (evaluateDependency (dependency "lib") [graded .critical] .empty) lenient e s' ∧ v ∈ e.findings ∧
        v.details.rule.severity = .held .critical ∧ v.severity = .held .low := by
    unfold Returns lenient Request.run
    simp only [outcome_discard, evaluateDependency_eq, hactive]
    exact ⟨_, _, _, rfl, List.mem_cons_self, rfl, rfl⟩
  exact ⟨lenient, e, s', v, lenient_reachable, he, hv, hrule, hseverity⟩

end Sample

end SupplyGate
