import SupplyGate.Proofs.Gate.Endings

/-!
# Runs that went as planned

Whether a turn is cancelled may hang on the events so far. But what a run did can be read off its turns
afterwards: the same turns are those of a run that is cancelled at fixed positions (`turns_stopped`). So
every run that returns has gone by the plan of the turns that it took, however it was cancelled
(`evaluateAll_went`), and the findings that it reports are those of the courses that went through, with
the records that filing them gave (`Plan.perm_findings`).
-/

namespace SupplyGate

/-! ## Findings of courses -/

section Findings

variable {records : Violation → Violation}

theorem Tally.perm_add (t : Tally) (n : Note) :
    ((t.add records n).violations ++ (t.add records n).warnings).Perm
      (t.violations ++ t.warnings ++ n.findings.map records) := by
  cases n with
  | taken id => simp [Tally.add, Note.findings]
  | quiet => simp [Tally.add, Note.findings]
  | excepted e => simp [Tally.add, Note.findings]
  | found r v =>
    unfold Tally.add Tally.addFinding
    by_cases hb : r.isBlocking = true
    · simp only [hb, if_true, Note.findings, List.map_cons, List.map_nil, List.append_assoc]
      exact List.Perm.append_left _ List.perm_append_comm
    · simp [hb, Note.findings]

/-- The findings of the tally of a course are those of the course, blocking ones first. -/
theorem Course.perm_tally (records : Violation → Violation) (x : Course) :
    ((x.tally records).violations ++ (x.tally records).warnings).Perm (x.findings.map records) := by
  have hfold : ∀ (notes : List Note) (t : Tally),
      ((notes.foldl (Tally.add records) t).violations ++ (notes.foldl (Tally.add records) t).warnings).Perm
        (t.violations ++ t.warnings ++ (notes.flatMap Note.findings).map records) := by
    intro notes
    induction notes with
    | nil => simp
    | cons n notes ih =>
      intro t
      rw [List.foldl_cons, List.flatMap_cons, List.map_append, ← List.append_assoc]
      exact (ih _).trans ((t.perm_add n).append_right _)
  simpa [Course.tally, Course.findings, Tally.empty] using hfold x.notes .empty

/-- A course that goes through ends with an evaluation of its findings. -/
theorem Course.perm_ending {x : Course} {d : Dependency} {now : Timestamp} {e : Evaluation}
    (h : x.ending records d now = .ok e) : x.stop = none ∧ e.findings.Perm (x.findings.map records) := by
  unfold Course.ending at h
  cases hstop : x.stop with
  | some f =>
    rw [result_of_some hstop] at h
    cases h
  | none =>
    rw [result_of_none hstop] at h
    cases h
    exact ⟨rfl, x.perm_tally records⟩

theorem Course.ending_of_some {x : Course} {f : Stop} (h : x.stop = some f) (d : Dependency) (now : Timestamp) :
    x.ending records d now = .error f.fault.message := by
  unfold Course.ending
  rw [result_of_some h]

end Findings

namespace Gate

open MemoryStore (Filing Follows recorded)

namespace Plan

variable {policies : List Policy} {c : EvaluationContext} {now : Timestamp}

/-- The plan of turns that were taken. -/
def taken (policies : List Policy) (c : EvaluationContext) (now : Timestamp) (turns : List (Dependency × Turn)) :
    Plan :=
  turns.map fun (d, t) => (d, t.ending.map fun _ => dependencyCourse d c now policies)

/-- The findings of the courses that go through. -/
def reported (p : Plan) : List Violation :=
  p.flatMap fun
    | (_, some x) => if x.stop.isNone then x.findings else []
    | (_, none) => []

theorem reported_subset (p : Plan) : p.reported ⊆ p.findings := by
  intro v hv
  obtain ⟨⟨d, x⟩, hmem, hv⟩ := List.mem_flatMap.mp hv
  refine List.mem_flatMap.mpr ⟨(d, x), hmem, ?_⟩
  cases x with
  | none => exact hv
  | some x =>
    dsimp only at hv
    split at hv
    · exact hv
    · cases hv

/-- The findings of the evaluations with which the turns of a plan end. -/
theorem perm_findings (records : Violation → Violation) (now : Timestamp) : ∀ p : Plan,
    ((evaluationsIn (p.endings records now)).flatMap Evaluation.findings).Perm (p.reported.map records)
  | [] => .nil
  | (d, none) :: p => perm_findings records now p
  | (d, some x) :: p => by
    have ih := perm_findings records now p
    cases hstop : x.stop with
    | some f =>
      simp only [evaluationsIn, endings, reported, List.map_cons, Option.map_some, List.flatMap_cons,
        x.ending_of_some hstop, hstop, Option.isNone_some, Bool.false_eq_true, if_false, List.nil_append,
        List.filterMap_cons]
      exact ih
    | none =>
      cases he : x.ending records d now with
      | error f =>
        unfold Course.ending at he
        rw [Course.result_of_none hstop] at he
        cases he
      | ok e =>
        simp only [evaluationsIn, endings, reported, List.map_cons, Option.map_some, List.flatMap_cons, he,
          hstop, Option.isNone_none, if_true, List.filterMap_cons, List.map_append]
        exact (Course.perm_ending he).2.append ih

/-- The turns of a plan are those that end as it says. -/
theorem of_eq_taken {records : Violation → Violation} {stop : Nat → Bool} {l : List (Dependency × Nat)}
    {turns : List (Dependency × Turn)}
    (h : endingsOf turns = (Plan.of policies c now stop l).endings records now) :
    Plan.of policies c now stop l = taken policies c now turns := by
  induction l generalizing turns with
  | nil =>
    obtain rfl : turns = [] := by simpa [endingsOf, endings, Plan.of] using h
    rfl
  | cons dn l ih =>
    obtain ⟨d, n⟩ := dn
    cases turns with
    | nil => simp [endingsOf, endings, Plan.of] at h
    | cons t turns =>
      obtain ⟨d', t⟩ := t
      obtain ⟨hhead, hrest⟩ := List.cons.inj h
      obtain ⟨rfl, hend⟩ := Prod.mk.inj hhead
      have hfirst : Plan.of policies c now stop [(d', n)] = taken policies c now [(d', t)] := by
        by_cases hs : stop n = true
        · have hnone : t.ending = none := by simpa [hs] using hend
          simp [Plan.of, taken, hs, hnone]
        · have hsome : t.ending = some ((dependencyCourse d' c now policies).ending records d' now) := by
            simpa [hs] using hend
          simp [Plan.of, taken, hs, hsome]
      rw [Plan.of_cons, hfirst, ih hrest]
      rfl

/-- The findings of a plan are about the dependencies of its turns, and of the tenants of its policies. -/
theorem mem_findings {turns : List (Dependency × Turn)} {v : Violation}
    (hv : v ∈ (taken policies c now turns).findings) :
    ∃ t ∈ turns, v.dependency = t.1 ∧ ∃ p ∈ policies, v.tenantId = p.tenantId := by
  obtain ⟨_, hmem, hv⟩ := List.mem_flatMap.mp hv
  obtain ⟨t, ht, rfl⟩ := List.mem_map.mp hmem
  refine ⟨t, ht, ?_⟩
  cases hend : t.2.ending with
  | none => simp [hend] at hv
  | some ending =>
    have hv : v ∈ (dependencyCourse t.1 c now policies).findings := by simpa [hend] using hv
    obtain ⟨p, hp, r, -, outcome, topic, metadata, -, rfl⟩ := violationOf_of_mem_findings hv
    exact ⟨rfl, p, hp, rfl⟩

end Plan

/-! ## Turns -/

section Turns

variable {others : Collaborators} {evaluationId tenantId : Value} {policies : List Policy}
  {c : EvaluationContext} {cancel : Cancellation} {before : Nat} {s : GateState} {d : Dependency} {n : Nat}

/-- Of the cancellation of a run a turn only asks about itself. -/
theorem turn_congr {cancel' : Cancellation} (h : cancel n = cancel' n) :
    turn (m := Gate) others evaluationId tenantId policies c cancel before (d, n) =
      turn others evaluationId tenantId policies c cancel' before (d, n) := by
  rw [turn_eq, turn_eq, h]

theorem outcome_turn_stopped (stop : Nat → Bool) (h : stop n = cancel n (s.events.drop before)) :
    outcome (turn others evaluationId tenantId policies c cancel before (d, n)) s =
      outcome (turn others evaluationId tenantId policies c (fun n _ => stop n) before (d, n)) s := by
  rw [turn_eq, turn_eq, outcome_bind, outcome_bind, outcome_get]
  dsimp only
  rw [h]

theorem turns_congr {cancel' : Cancellation} {l : List (Dependency × Nat)}
    (h : ∀ dn ∈ l, cancel dn.2 = cancel' dn.2) :
    takeAll (turn others evaluationId tenantId policies c cancel before) l =
      takeAll (turn others evaluationId tenantId policies c cancel' before) l := by
  unfold takeAll
  congr 1
  induction l with
  | nil => rfl
  | cons dn l ih =>
    obtain ⟨hdn, hl⟩ := List.forall_mem_cons.mp h
    rw [List.mapM_cons, List.mapM_cons, ih hl, turn_congr (d := dn.1) hdn]

/-- The turns of a run stand at different positions. -/
theorem nodup_positions (ds : List Dependency) : (ds.zipIdx.map (·.2)).Nodup := by
  rw [List.zipIdx_map_snd]
  exact List.nodup_range'

/-- However a run is cancelled, its turns are those of a run that is cancelled at some positions, whatever
happens. -/
theorem turns_stopped : ∀ {l : List (Dependency × Nat)} (s : GateState), (l.map (·.2)).Nodup →
    ∃ stop : Nat → Bool, outcome (takeAll (turn others evaluationId tenantId policies c cancel before) l) s =
      outcome (takeAll (turn others evaluationId tenantId policies c (fun n _ => stop n) before) l) s
  | [], s, _ => ⟨fun _ => false, rfl⟩
  | (d, n) :: l, s, h => by
    obtain ⟨hn, hl⟩ := List.nodup_cons.mp h
    obtain ⟨stop, hstop⟩ :=
      turns_stopped (outcome (turn others evaluationId tenantId policies c cancel before (d, n)) s).2 hl
    -- The position of the first turn does not come again, so it can be settled apart from the others.
    let stop' : Nat → Bool := fun k => if k = n then cancel n (s.events.drop before) else stop k
    have hfirst : outcome (turn others evaluationId tenantId policies c cancel before (d, n)) s =
        outcome (turn others evaluationId tenantId policies c (fun n _ => stop' n) before (d, n)) s :=
      outcome_turn_stopped stop' (by simp [stop'])
    have hrest : takeAll (turn others evaluationId tenantId policies c (fun n _ => stop n) before) l =
        takeAll (turn others evaluationId tenantId policies c (fun n _ => stop' n) before) l := by
      refine turns_congr fun dn hdn => ?_
      have hmem : dn.2 ∈ l.map (·.2) := List.mem_map_of_mem hdn
      have hne : dn.2 ≠ n := fun he => hn (he ▸ hmem)
      simp [stop', hne]
    refine ⟨stop', ?_⟩
    rw [outcome_takeAll_cons, outcome_takeAll_cons]
    dsimp only
    rw [hstop, hrest, hfirst]

end Turns

/-! ## Runs -/

section Runs

variable {m : MemoryStore Violation} {s s' : GateState} {others : Collaborators} {ds : List Dependency}
  {tenantId : Value} {policies : List Policy} {c : EvaluationContext} {cancel : Cancellation}
  {r : EnforcementResult}

/-- However a run is cancelled, and however it ends, it is a run that is cancelled at some positions,
whatever happens. -/
theorem evaluateAll_stopped (others : Collaborators) (ds : List Dependency) (tenantId : Value)
    (policies : List Policy) (c : EvaluationContext) (cancel : Cancellation) (hl : s.logsEvents = false) :
    ∃ stop : Nat → Bool, outcome (evaluateAll others ds tenantId policies c cancel) s =
      outcome (evaluateAll others ds tenantId policies c fun n _ => stop n) s := by
  obtain ⟨stop, hstop⟩ : ∃ stop : Nat → Bool,
      outcome (runTurns others (runId s) tenantId policies c cancel s.events.length s.now ds)
          (begun s tenantId ds.length) =
        outcome (runTurns others (runId s) tenantId policies c (fun n _ => stop n) s.events.length s.now ds)
          (begun s tenantId ds.length) := by
    unfold runTurns
    simp only [liftM_eq_ofReading, outcome_bind, outcome_ofReading]
    cases Policy.active (policies.filter (·.tenantId.same tenantId)) with
    | error f => exact ⟨fun _ => false, rfl⟩
    | ok active =>
      obtain ⟨stop, hstop⟩ : ∃ stop : Nat → Bool,
          outcome (takeAll (turn others (runId s) tenantId active c cancel s.events.length) ds.zipIdx)
              (begun s tenantId ds.length) =
            outcome (takeAll (turn others (runId s) tenantId active c (fun n _ => stop n) s.events.length) ds.zipIdx)
              (begun s tenantId ds.length) := turns_stopped _ (nodup_positions ds)
      refine ⟨stop, ?_⟩
      dsimp only
      rw [hstop]
  refine ⟨stop, ?_⟩
  rw [outcome_evaluateAll hl, outcome_evaluateAll hl, outcome_bind, outcome_bind, outcome_tryCatch,
    outcome_tryCatch, hstop]

/-- What a run that returned was made of: the policies that took effect, and the turns that it took and
reports on. -/
structure Run (others : Collaborators) (ds : List Dependency) (tenantId : Value) (policies : List Policy)
    (c : EvaluationContext) (cancel : Cancellation) (s : GateState) (r : EnforcementResult)
    (active : List Policy) (turns : List (Dependency × Turn)) (s₁ : GateState) : Prop where
  ordered : Policy.active (policies.filter (·.tenantId.same tenantId)) = .ok active
  taken : Returns (ds.zipIdx.mapM (turn others (runId s) tenantId active c cancel s.events.length))
    (begun s tenantId ds.length) turns s₁
  evaluations : r.evaluations = evaluationsOf turns
  executedActions : r.executedActions = executedOf turns
  summary : summarize active (evaluationsOf turns) (executedOf turns) = .ok r.summary

/-- A run that returned took turns, and left the violations as they were after these. -/
theorem evaluateAll_run (hl : s.logsEvents = false)
    (hr : Returns (evaluateAll others ds tenantId policies c cancel) s r s') :
    ∃ active turns s₁, Run others ds tenantId policies c cancel s r active turns s₁ ∧
      s'.violations = s₁.violations := by
  rw [Returns, outcome_evaluateAll hl] at hr
  obtain ⟨r', s₂, hrun, hr⟩ := returns_bind.mp hr
  obtain ⟨_, _, htold, hr⟩ := returns_bind.mp hr
  obtain ⟨rfl, rfl⟩ := returns_pure.mp hr
  rcases returns_tryCatch.mp hrun with hok | ⟨f, _, -, hfail⟩
  · obtain ⟨active, _, hread, h₁⟩ := returns_bind.mp hok
    obtain ⟨hactive, rfl⟩ := returns_ofReading.mp hread
    obtain ⟨turns, s₁, hturns, h₂⟩ := returns_bind.mp h₁
    have hturns := returns_takeAll.mp hturns
    obtain ⟨finish, _, hclock, h₃⟩ := returns_bind.mp h₂
    obtain ⟨-, rfl⟩ := returns_clock.mp hclock
    obtain ⟨summary, _, hsum, h₄⟩ := returns_bind.mp h₃
    obtain ⟨hsummary, rfl⟩ := returns_ofReading.mp hsum
    obtain ⟨_, _, hkept, h₅⟩ := returns_bind.mp h₄
    obtain ⟨rfl, rfl⟩ := returns_pure.mp h₅
    obtain ⟨results, -, rfl⟩ := (returns_keep _).mp hkept
    refine ⟨active, turns, _, ⟨hactive, hturns, rfl, rfl, hsummary⟩, ?_⟩
    rw [returns_publish htold]
    rfl
  · obtain ⟨_, _, -, hfail⟩ := returns_bind.mp hfail
    exact absurd hfail returns_throw

/-- The turns of a run are those of its dependencies. -/
theorem Run.mem_dependencies {active : List Policy} {turns : List (Dependency × Turn)} {s₁ : GateState}
    (hrun : Run others ds tenantId policies c cancel s r active turns s₁) {t : Dependency × Turn}
    (ht : t ∈ turns) : t.1 ∈ ds := by
  have L : Routine fun _ => True := {
    recorded := fun _ _ _ _ _ => trivial
    numbered := fun _ _ _ => trivial
    told := fun _ _ _ _ => trivial
    called := fun _ _ _ => trivial }
  have hyields : Yields (fun _ => True)
      (ds.zipIdx.mapM (turn others (runId s) tenantId active c cancel s.events.length)) _ :=
    .mapM_mem fun dn _ => L.yields_turn (R := fun _ _ => True) dn.2 fun _ _ _ _ _ _ _ _ =>
      ⟨trivial, fun _ _ => trivial⟩
  obtain ⟨dn, hdn, hdependency, -⟩ := (hyields _ trivial).2 turns (by rw [hrun.taken]) t ht
  rw [hdependency]
  exact List.fst_mem_of_mem_zipIdx hdn

/-- A run over the stored policies of a tenant is one over them in order of their priorities. -/
theorem evaluatePolicies_left (hl : s.logsEvents = false)
    (hr : Returns (evaluatePolicies others ds tenantId c cancel) s r s') :
    ∃ ranked active turns s₁, rankedOf s tenantId = .ok ranked ∧
      Run others ds tenantId ranked c cancel s r active turns s₁ ∧ s'.violations = s₁.violations := by
  rw [Returns, outcome_evaluatePolicies] at hr
  cases hranked : rankedOf s tenantId with
  | error f =>
    rw [hranked] at hr
    cases hr
  | ok ranked =>
    rw [hranked] at hr
    obtain ⟨active, turns, s₁, hrun, hleft⟩ := evaluateAll_run hl hr
    exact ⟨ranked, active, turns, s₁, rfl, hrun, hleft⟩

theorem evaluatePolicies_run (hl : s.logsEvents = false)
    (hr : Returns (evaluatePolicies others ds tenantId c cancel) s r s') :
    ∃ ranked active turns s₁, rankedOf s tenantId = .ok ranked ∧
      Run others ds tenantId ranked c cancel s r active turns s₁ := by
  obtain ⟨ranked, active, turns, s₁, hranked, hrun, -⟩ := evaluatePolicies_left hl hr
  exact ⟨ranked, active, turns, s₁, hranked, hrun⟩

/-- **A run goes as planned.** The turns of a run that returned went by the plan that they took. -/
theorem Run.went {active : List Policy} {turns : List (Dependency × Turn)} {s₁ : GateState}
    (hrun : Run others ds tenantId policies c cancel s r active turns s₁) (h : Recording m s) :
    ∃ m', Went (evaluationTime c s) (.taken active c (evaluationTime c s) turns) m
      (begun s tenantId ds.length) (.ok turns) m' s₁ := by
  obtain ⟨stop, hstop⟩ : ∃ stop : Nat → Bool,
      outcome (takeAll (turn others (runId s) tenantId active c cancel s.events.length) ds.zipIdx)
        (begun s tenantId ds.length) =
      outcome (takeAll (turn others (runId s) tenantId active c (fun n _ => stop n) s.events.length) ds.zipIdx)
        (begun s tenantId ds.length) := turns_stopped _ (nodup_positions ds)
  obtain ⟨turns', m', s₂, hturns, hwent⟩ : ∃ turns' m' s₂,
      outcome (takeAll (turn others (runId s) tenantId active c (fun n _ => stop n) s.events.length) ds.zipIdx)
        (begun s tenantId ds.length) = (turns', s₂) ∧
      Went (evaluationTime c s) (.of active c (evaluationTime c s) stop ds.zipIdx) m
        (begun s tenantId ds.length) turns' m' s₂ := turns_went (h.begun tenantId ds.length) rfl
  obtain ⟨rfl, rfl⟩ : turns' = .ok turns ∧ s₂ = s₁ :=
    Prod.mk.inj (hturns.symm.trans (hstop.symm.trans (returns_takeAll.mpr hrun.taken)))
  refine ⟨m', ?_⟩
  rwa [← Plan.of_eq_taken (hwent.endings turns rfl m' (.refl m'))]

end Runs

end Gate
end SupplyGate
