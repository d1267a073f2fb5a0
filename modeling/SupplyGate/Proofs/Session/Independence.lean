import SupplyGate.Proofs.Gate.Endings
import SupplyGate.Proofs.Session.Evaluable

/-!
# What a verdict depends on

A run plans a course for each dependency without a look at the store, and the records that filing the
findings gives carry the rules of the findings. So how a dependency is judged, or with which error it
is skipped, is a function of the dependency, the policies of the tenant, the context and the time
(`judge`): neither what was found before, and what became of it, nor the rest of the batch counts
(`runs_judge`).
-/

namespace SupplyGate

open Gate
open MemoryStore (recorded)

/-- What an evaluation says of its dependency, with the rules of its findings for the findings. -/
structure Verdict where
  status : EvaluationStatus
  policyIds : List Value
  exceptions : List PolicyException
  rulesEvaluated : Value
  rulesTriggered : Value
  blocked : Bool
  violations : List Rule
  warnings : List Rule

/-- The verdict of an evaluation. -/
def Evaluation.verdict (e : Evaluation) : Verdict where
  status := e.status
  policyIds := e.policyIds
  exceptions := e.exceptions
  rulesEvaluated := e.rulesEvaluated
  rulesTriggered := e.rulesTriggered
  blocked := e.isBlocked
  violations := e.violations.map (·.details.rule)
  warnings := e.warnings.map (·.details.rule)

/-! ## Records carry the rules of findings -/

theorem Finding.details_seenAgain (now : Timestamp) (found stored : Violation) :
    (seenAgain now found stored).details = found.details := by
  unfold seenAgain
  split <;> rfl

theorem MemoryStore.details_recorded (now : Timestamp) (m : MemoryStore Violation) (v : Violation) :
    (recorded now m v).details = v.details := by
  unfold recorded
  split
  · exact Finding.details_seenAgain ..
  · rfl

/-- Two tallies differ only by what their findings have beside their rules. -/
structure Tally.Alike (t u : Tally) : Prop where
  policyIds : t.policyIds = u.policyIds
  exceptions : t.exceptions = u.exceptions
  rulesEvaluated : t.rulesEvaluated = u.rulesEvaluated
  rulesTriggered : t.rulesTriggered = u.rulesTriggered
  violations : t.violations.map (·.details.rule) = u.violations.map (·.details.rule)
  warnings : t.warnings.map (·.details.rule) = u.warnings.map (·.details.rule)

section Alike

variable {t u : Tally} {records : Violation → Violation}

theorem Tally.Alike.refl (t : Tally) : t.Alike t := ⟨rfl, rfl, rfl, rfl, rfl, rfl⟩

theorem Tally.Alike.addFinding (h : t.Alike u) (r : Rule) {v w : Violation}
    (hr : v.details.rule = w.details.rule) : (t.addFinding r v).Alike (u.addFinding r w) := by
  unfold Tally.addFinding
  split
  · exact ⟨h.policyIds, h.exceptions, h.rulesEvaluated, by simp [h.rulesTriggered],
      by simp [h.violations, hr], h.warnings⟩
  · exact ⟨h.policyIds, h.exceptions, h.rulesEvaluated, by simp [h.rulesTriggered], h.violations,
      by simp [h.warnings, hr]⟩

/-- A note is added alike whatever the records of findings are, as long as they carry their rules. -/
theorem Tally.Alike.add (h : t.Alike u) (hr : ∀ v, (records v).details = v.details) (n : Note) :
    (t.add records n).Alike (u.add id n) := by
  cases n with
  | taken policyId =>
    exact ⟨by simp [Tally.add, h.policyIds], h.exceptions, h.rulesEvaluated, h.rulesTriggered, h.violations,
      h.warnings⟩
  | quiet =>
    exact ⟨h.policyIds, h.exceptions, by simp [Tally.add, h.rulesEvaluated], h.rulesTriggered, h.violations,
      h.warnings⟩
  | excepted e =>
    exact ⟨h.policyIds, by simp [Tally.add, h.exceptions], by simp [Tally.add, h.rulesEvaluated],
      h.rulesTriggered, h.violations, h.warnings⟩
  | found r v =>
    refine Tally.Alike.addFinding ?_ r (by rw [hr, id])
    exact ⟨h.policyIds, h.exceptions, by simp [h.rulesEvaluated], h.rulesTriggered, h.violations, h.warnings⟩

theorem Course.tally_alike (hr : ∀ v, (records v).details = v.details) (x : Course) :
    (x.tally records).Alike (x.tally id) := by
  unfold Course.tally
  refine List.foldl_rel (r := Tally.Alike) (.refl .empty) fun n _ t u h => h.add hr n

/-- Tallies that are alike make for the same verdict. -/
theorem Tally.Alike.verdict (h : t.Alike u) (d : Dependency) (now : Timestamp) :
    (t.evaluation d now).verdict = (u.evaluation d now).verdict := by
  have hblocked : ∀ vs : List Violation,
      vs.any Violation.isBlocking = (vs.map (·.details.rule)).any Rule.isBlocking := by
    intro vs
    rw [List.any_map]
    rfl
  have hempty : ∀ vs : List Violation, vs.isEmpty = (vs.map (·.details.rule)).isEmpty := by simp
  unfold Tally.evaluation Evaluation.verdict Evaluation.isBlocked EvaluationStatus.ofFindings
  simp only [hblocked, hempty, h.policyIds, h.exceptions, h.rulesEvaluated, h.rulesTriggered, h.violations,
    h.warnings]

end Alike

/-! ## Judgements -/

/-- The judgement of a dependency against the policies of a tenant among some policies: the verdict on
it, or the error that it is skipped with. The findings count as they are, without any record. -/
def judge (tenantId : Value) (policies : List Policy) (c : EvaluationContext) (now : Timestamp)
    (d : Dependency) : Except String Verdict :=
  match Policy.active (policies.filter (·.tenantId.same tenantId)) with
  | .error f => .error f.message
  | .ok active => ((dependencyCourse d c now active).ending id d now).map Evaluation.verdict

theorem judge_eq {tenantId : Value} {policies active : List Policy} {c : EvaluationContext} {now : Timestamp}
    (hactive : Policy.active (policies.filter (·.tenantId.same tenantId)) = .ok active) (d : Dependency) :
    judge tenantId policies c now d =
      ((dependencyCourse d c now active).ending id d now).map Evaluation.verdict := by
  rw [judge, hactive]

/-- A course ends with the same verdict or error whatever the records of its findings are. -/
theorem Course.ending_verdict {records : Violation → Violation} (hr : ∀ v, (records v).details = v.details)
    (x : Course) (d : Dependency) (now : Timestamp) :
    (x.ending records d now).map Evaluation.verdict = (x.ending id d now).map Evaluation.verdict := by
  unfold ending
  cases hstop : x.stop with
  | some e => simp only [result_of_some hstop]
  | none =>
    simp only [result_of_none hstop]
    exact congrArg Except.ok ((x.tally_alike hr).verdict d now)

/-- The verdicts on the dependencies of a batch that are not skipped, with their ids. -/
def verdictsOn (judge : Dependency → Except String Verdict) (ds : List Dependency) : List (Value × Verdict) :=
  ds.filterMap fun d =>
    match judge d with
    | .ok v => some (.str d.ident, v)
    | .error _ => none

/-- The errors of the dependencies of a batch that are skipped, with their names. -/
def failuresOn (judge : Dependency → Except String Verdict) (ds : List Dependency) : List (Value × String) :=
  ds.filterMap fun d =>
    match judge d with
    | .ok _ => none
    | .error error => some (d.name, error)

/-- The errors of the dependencies of a batch that are skipped, by their ids. -/
def errorsOn (judge : Dependency → Except String Verdict) (ds : List Dependency) : List (Scalar × Value) :=
  ds.foldl (fun errors d =>
    match judge d with
    | .ok _ => errors
    | .error error => Value.insert (.str d.ident) (.str error) errors) []

/-- A run went by a judgement of each dependency alone: it has the evaluations with the verdicts, tells
of the failures one by one, and has the errors. -/
structure Judged (judge : Dependency → Except String Verdict) (ds : List Dependency) (s s' : GateState)
    (r : EnforcementResult) : Prop where
  evaluations : r.evaluations.map (fun e => (e.dependencyId, e.verdict)) = verdictsOn judge ds
  failures : ∃ events, s'.events = s.events ++ events ∧ events.filterMap Event.failure = failuresOn judge ds
  errors : r.errors = errorsOn judge ds

/-! ## The endings of turns go by judgements -/

section Endings

variable {endings : Dependency → Except String Evaluation} {judge : Dependency → Except String Verdict}
  (hjudge : ∀ d, (endings d).map Evaluation.verdict = judge d)
include hjudge

theorem evaluationsIn_verdicts (hid : ∀ d e, endings d = .ok e → e.dependencyId = .str d.ident)
    (ds : List Dependency) :
    (evaluationsIn (ds.map fun d => (d, some (endings d)))).map (fun e => (e.dependencyId, e.verdict)) =
      verdictsOn judge ds := by
  unfold evaluationsIn verdictsOn
  rw [List.filterMap_map, List.map_filterMap]
  refine List.filterMap_congr fun d _ => ?_
  rw [← hjudge d]
  cases he : endings d with
  | error error => simp [he, Except.map]
  | ok e => simp [he, Except.map, hid d e he]

theorem errorsIn_judged (ds : List Dependency) :
    errorsIn (ds.map fun d => (d, some (endings d))) = errorsOn judge ds := by
  unfold errorsIn errorsOn
  rw [List.foldl_map]
  congr 1
  funext errors d
  rw [← hjudge d]
  cases endings d <;> rfl

end Endings

section Runs

variable {s : GateState} {others : Collaborators} {ds : List Dependency} {tenantId : Value}
  {policies active : List Policy} {c : EvaluationContext} {now : Timestamp}

theorem Gate.Plan.of_unstopped (ds : List Dependency) :
    Plan.of active c now (fun _ => false) ds.zipIdx =
      ds.map fun d => (d, some (dependencyCourse d c now active)) := by
  unfold Plan.of
  conv_rhs => rw [← List.zipIdx_map_fst 0 ds]
  rw [List.map_map]
  rfl

theorem dependencyId_ending {records : Violation → Violation} {x : Course} {d : Dependency} {e : Evaluation}
    (h : x.ending records d now = .ok e) : e.dependencyId = .str d.ident := by
  unfold Course.ending at h
  split at h
  · cases h
  · cases h
    rfl

/-- Where the failures of a plan could be told, the names of the dependencies can be written. -/
theorem Gate.Plan.written_of_tell : ∀ {p : Plan}, p.tell = .ok () →
    ∀ d x, (d, some x) ∈ p → x.stop.isSome = true → d.name.isWritable = true
  | [], _, _, _, h, _ => nomatch h
  | e :: p, htell, d, x, hmem, hstop => by
    obtain ⟨_, hfirst, hrest⟩ := Reading.bind_eq_ok.mp htell
    rcases List.mem_cons.mp hmem with rfl | hmem
    · simpa [hstop, Value.checkWritable_eq_ok] using hfirst
    · exact written_of_tell hrest d x hmem hstop

/-- The failures that a plan tells of are those of the judgements, if they could be told. -/
theorem Gate.Plan.failures_judged
    (hactive : Policy.active (policies.filter (·.tenantId.same tenantId)) = .ok active) (ds : List Dependency)
    (htell : Plan.tell (ds.map fun d => (d, some (dependencyCourse d c now active))) = .ok ()) :
    Plan.failures (ds.map fun d => (d, some (dependencyCourse d c now active))) =
      failuresOn (judge tenantId policies c now) ds := by
  unfold Plan.failures failuresOn
  rw [List.flatMap_map, List.filterMap_eq_flatMap_toList]
  refine List.flatMap_congr fun d hd => ?_
  rw [judge_eq hactive, Course.ending]
  cases hstop : (dependencyCourse d c now active).stop with
  | none => simp [Course.result_of_none hstop, hstop, Except.map]
  | some e =>
    have hname : d.name.isWritable = true :=
      written_of_tell htell d _ (List.mem_map_of_mem hd) (by rw [hstop]; rfl)
    simp [Course.result_of_some hstop, hstop, hname, Except.map]

/-- A run without cancellation that returns went by the judgement of each dependency. -/
theorem judged_of_returns {m : MemoryStore Violation} (h : Recording m s) (hnow : evaluationTime c s = now)
    {r : EnforcementResult} {s' : GateState}
    (hr : Returns (evaluateAll others ds tenantId policies c fun _ _ => false) s r s') :
    Judged (judge tenantId policies c now) ds s s' r := by
  cases hactive : Policy.active (policies.filter (·.tenantId.same tenantId)) with
  | error f =>
    obtain ⟨m', t, ho, -⟩ := evaluateAll_unordered others ds c (fun _ => false) h hactive
    cases hr.symm.trans ho
  | ok active =>
    obtain ⟨r', m', t, ho, hran, executed, hreport⟩ := evaluateAll_ran others ds (fun _ => false) h hnow hactive
    obtain ⟨rfl, rfl⟩ : r' = .ok r ∧ t = s' := Prod.mk.inj (ho.symm.trans hr)
    -- The records are those of the store that the run leaves, but they carry the rules of the plan.
    obtain ⟨-, hr⟩ := hreport m' (.refl m')
    rw [Plan.of_unstopped] at hran hr
    obtain ⟨_, htell, hsum⟩ := Reading.bind_eq_ok.mp hr.symm
    obtain ⟨summary, -, hsum⟩ := Reading.bind_eq_ok.mp hsum
    have hjudge : ∀ d, ((dependencyCourse d c now active).ending (recorded now m') d now).map
        Evaluation.verdict = judge tenantId policies c now d := fun d => by
      rw [judge_eq hactive]
      exact Course.ending_verdict (MemoryStore.details_recorded now m') _ d now
    have hendings : Plan.endings (recorded now m') now
        (ds.map fun d => (d, some (dependencyCourse d c now active))) =
        ds.map fun d => (d, some ((dependencyCourse d c now active).ending (recorded now m') d now)) := by
      simp [Plan.endings]
    rw [hendings] at hsum
    have hreport := Except.ok.inj hsum
    refine ⟨?_, ?_, ?_⟩
    · rw [show r.evaluations = _ from (congrArg Report.evaluations hreport).symm]
      exact evaluationsIn_verdicts hjudge (fun _ _ => dependencyId_ending) ds
    · obtain ⟨events, he, hfail⟩ := hran.told
      exact ⟨events, he, hfail.trans (Plan.failures_judged hactive ds htell)⟩
    · rw [show r.errors = _ from (congrArg Report.errors hreport).symm]
      exact errorsIn_judged hjudge ds

/-- **A verdict depends on its inputs alone.** Wherever requests lead, every run without cancellation
that returns went, dependency by dependency, by the judgement of that dependency against the policies of
the tenant, in the context and at the time: the store and the rest of the batch do not come into it. And
a service whose policies can be put in order returns, whatever its store and its batch are, if the names of
the dependencies can be written, as every text can. -/
theorem runs_judge {allowed : Request → Prop} (h : Reachable allowed s) :
    (∀ policies r s', Returns (evaluateAll others ds tenantId policies c fun _ _ => false) s r s' →
      Judged (judge tenantId policies c (evaluationTime c s)) ds s s' r) ∧
    (Reachable Request.ofService s → ∀ ranked active, rankedOf s tenantId = .ok ranked →
      Policy.active ranked = .ok active → (∀ d ∈ ds, d.name.isWritable = true) →
      ∃ r s', Returns (evaluatePolicies others ds tenantId c fun _ _ => false) s r s' ∧
        Judged (judge tenantId ranked c (evaluationTime c s)) ds s s' r) := by
  obtain ⟨m, hm⟩ := h.recording
  refine ⟨fun policies r s' hr => judged_of_returns hm rfl hr, fun hs ranked active hranked hactive hnames => ?_⟩
  obtain ⟨stored, hstored, hsorted⟩ := Reading.bind_eq_ok.mp hranked
  obtain ⟨haccepted, hfilter⟩ := Accepting.ranked hs.serving.policies hstored hsorted
  obtain ⟨r, s', hr⟩ : Succeeds (evaluateAll others ds tenantId ranked c fun _ _ => false) s :=
    succeeds_evaluateAll haccepted (by rw [hfilter]; exact hactive) hs.serving.toOrderly hnames
  exact ⟨r, s', (returns_evaluatePolicies hstored hsorted).mpr hr, judged_of_returns hm rfl hr⟩

end Runs

section Sample

open Sample

/-- The policy of the sample warns of the dependency. -/
theorem runs_judge_created :
    Reachable Request.ofService created ∧
      ∃ ranked, rankedOf created "t" = .ok ranked ∧
        (judge "t" ranked .empty moment (dependency "lib")).map (·.warnings) = .ok [rule "r" (absent "x")] ∧
        ∃ r s', Returns (evaluatePolicies .none [dependency "lib"] "t" .empty fun _ _ => false) created r s' ∧
          Judged (judge "t" ranked .empty moment) [dependency "lib"] created s' r := by
  let kept : Policy := { plain with createdBy := "u" }
  have hranked : rankedOf created "t" = .ok [kept] := sortDescending_singleton (·.priority) kept
  have hactive : Policy.active [kept] = .ok [kept] := Policy.active_singleton rfl
  have hcourse : dependencyCourse (dependency "lib") .empty moment [kept] =
      .reading (EvaluationData.of (dependency "lib") .empty moment) fun data =>
        .inOrder (policyCourse (dependency "lib") data .empty moment) [kept] := by
    unfold dependencyCourse
    rw [hactive]
    rfl
  have hfilter : [kept].filter (·.tenantId.same "t") = [kept] := rfl
  refine ⟨created_reachable, _, hranked, ?_,
    (runs_judge created_reachable).2 created_reachable _ _ hranked hactive (by simp [dependency])⟩
  rw [judge_eq (by rw [hfilter]; exact hactive), hcourse]
  rfl

end Sample

end SupplyGate
