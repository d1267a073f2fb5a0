import SupplyGate.Proofs.Gate.Endings
import SupplyGate.Proofs.Session.Evaluable

/-!
# What a skipped dependency leaves behind

An evaluation records its findings rule by rule, and nothing takes a record back when a later rule, or a
later policy, cannot be read. So the attempt at a dependency that is skipped leaves behind the findings
that it came to before it failed, and the events of violations that these opened again, and nothing else
but the event of its failure (`skipped_attempts`).
-/

namespace SupplyGate

namespace Gate

open MemoryStore (Filing)

/-- The turn of a dependency in a run, with the gate before and after it. It ends with a fault if not even its
failure can be told. -/
structure Attempt where
  dependency : Dependency
  ending : Reading Turn
  before : GateState
  after : GateState

/-- What a run keeps of an attempt. -/
def Attempt.turn (a : Attempt) : Reading (Dependency × Turn) := a.ending.map (a.dependency, ·)

/-- The attempts at some dependencies, one after the other, and where they lead. -/
inductive Attempts (turn : Dependency × Nat → Gate (Dependency × Turn)) :
    GateState → List (Dependency × Nat) → List Attempt → GateState → Prop where
  | nil (s : GateState) : Attempts turn s [] [] s
  | cons {s s₁ s₂ : GateState} {d : Dependency} {n : Nat} {t : Reading Turn} {l : List (Dependency × Nat)}
      {attempts : List Attempt} (first : outcome (turn (d, n)) s = (t.map (d, ·), s₁))
      (rest : Attempts turn s₁ l attempts s₂) :
      Attempts turn s ((d, n) :: l) (⟨d, t, s, s₁⟩ :: attempts) s₂

/-- An attempt left nothing behind but the event of its failure. -/
def Attempt.Traceless (failed : Event) (a : Attempt) : Prop :=
  a.after.violations = a.before.violations ∧ a.after.events = a.before.events ++ [failed]

/-- What an attempt left behind whose course could not be followed to its end: the findings of the
course, the events of violations that these opened again, and the event of the failure. -/
structure Left (now : Timestamp) (x : Course) (failed : Event) (a : Attempt) : Prop where
  filed : ∃ m m' events, a.before.violations = .memory m ∧ Filing now m x.findings m' events ∧
    (∀ e ∈ events, ∃ tenantId id, e = .statusChanged tenantId id .resolved .open "system") ∧
    a.after = { a.before with
      ids := a.after.ids
      violations := .memory m'
      events := a.before.events ++ events ++ [failed] }
  clean : x.findings = [] → a.Traceless failed

theorem Left.of_filed {now : Timestamp} {x : Course} {failed : Event} {a : Attempt}
    {m m' : MemoryStore Violation} {events : List Event} (hm : a.before.violations = .memory m)
    (hf : Filing now m x.findings m' events)
    (ha : a.after = { a.before with
      ids := a.after.ids
      violations := .memory m'
      events := a.before.events ++ events ++ [failed] }) : Left now x failed a where
  filed := ⟨m, m', events, hm, hf, hf.reopened, ha⟩
  clean h := by
    rw [h] at hf
    cases hf
    unfold Attempt.Traceless
    rw [ha, hm]
    exact ⟨rfl, by simp⟩

section Attempts

variable {now : Timestamp} {m : MemoryStore Violation} {s s' : GateState} {others : Collaborators}
  {evaluationId tenantId : Value} {policies : List Policy} {c : EvaluationContext} {cancel : Cancellation}
  {before : Nat} {d : Dependency}

/-- Readings that all give something are those of what they give. -/
theorem eq_map_of_mapM_id {α : Type} : ∀ {rs : List (Reading α)} {as : List α}, rs.mapM id = .ok as → rs = as.map .ok
  | [], _, h => by
    cases h
    rfl
  | r :: rs, _, h => by
    obtain ⟨a, as, hr, has, rfl⟩ := Reading.mapM_cons_eq_ok.mp h
    rw [List.map_cons, ← eq_map_of_mapM_id has]
    exact congrArg (· :: rs) hr

/-- Attempts are all the turns of a run, also those after one that ends with a fault. -/
theorem Attempts.outcome {turn : Dependency × Nat → Gate (Dependency × Turn)} {l : List (Dependency × Nat)}
    {attempts : List Attempt} (h : Attempts turn s l attempts s') :
    outcome (takeAll turn l) s = ((attempts.map Attempt.turn).mapM id, s') := by
  induction h with
  | nil s => rfl
  | cons first rest ih =>
    rw [outcome_takeAll_cons, first]
    dsimp only
    rw [ih, List.map_cons, List.mapM_cons]
    rfl

/-- A turn keeps what becomes of its dependency. -/
theorem outcome_turn (others : Collaborators) (evaluationId tenantId : Value) (policies : List Policy)
    (c : EvaluationContext) (cancel : Cancellation) (before : Nat) (d : Dependency) (n : Nat) (s : GateState) :
    ∃ (t : Reading Turn) (s' : GateState),
      outcome (turn others evaluationId tenantId policies c cancel before (d, n)) s = (t.map (d, ·), s') := by
  rw [turn_eq, outcome_bind, outcome_get]
  dsimp only
  split
  · exact ⟨.ok .cancelled, s, rfl⟩
  · rw [outcome_bind]
    rcases outcome (tryCatch (evaluateAndAct others policies c d) (skip evaluationId tenantId d)) s with ⟨f | t, s'⟩
    · exact ⟨.error f, s', rfl⟩
    · exact ⟨.ok t, s', rfl⟩

/-- A turn keeps the gate in order, however its run is cancelled. -/
theorem turn_recording (h : Recording m s) (n : Nat) :
    ∃ (t : Reading Turn) (m' : MemoryStore Violation) (s' : GateState),
      outcome (turn others evaluationId tenantId policies c cancel before (d, n)) s = (t.map (d, ·), s') ∧
      Recording m' s' ∧ s'.now = s.now := by
  obtain ⟨t, s', ht⟩ := outcome_turn others evaluationId tenantId policies c cancel before d n s
  -- Whether the turn is cancelled is settled by the events that it begins with.
  obtain ⟨r, m', s'', hr, hwent⟩ : ∃ r m' s'',
      outcome (turn others evaluationId tenantId policies c (fun _ _ => cancel n (s.events.drop before)) before
        (d, n)) s = (r, s'') ∧
      Went (evaluationTime c s) (.of policies c (evaluationTime c s) (fun _ => cancel n (s.events.drop before))
        [(d, n)]) m s (r >>= fun t => .ok [t]) m' s'' := turn_went h rfl n
  obtain ⟨rfl, rfl⟩ := Prod.mk.inj (hr.symm.trans ht)
  exact ⟨t, m', _, ht, hwent.ran.recording, hwent.ran.clock⟩

/-- A turn is skipped just because the course of its dependency stops, and leaves behind what it filed. -/
theorem turn_left (h : Recording m s) (hnow : evaluationTime c s = now) {n : Nat} {error : String}
    (ht : Returns (turn others evaluationId tenantId policies c cancel before (d, n)) s
      (d, .skipped error) s') :
    (∃ f, (dependencyCourse d c now policies).stop = some f ∧ f.fault.message = error) ∧
      Left now (dependencyCourse d c now policies) (.dependencyFailed evaluationId tenantId d.name error)
        ⟨d, .ok (.skipped error), s, s'⟩ := by
  have hcancel : cancel n (s.events.drop before) = false := by
    by_contra hc
    cases ht.symm.trans (turn_cancelled (Bool.of_not_eq_false hc))
  cases hstop : (dependencyCourse d c now policies).stop with
  | none =>
    obtain ⟨e, m', events, s₁, he, hr, -⟩ := evaluateDependency_finished h hnow hstop
    obtain ⟨executed, s₂, hact, -⟩ :
        ∃ executed s₂, Returns (evaluateAndAct others policies c d) s _ s₂ ∧ _ :=
      evaluateAndAct_evaluated he hr.recording
    cases ht.symm.trans (turn_evaluated hcancel hact)
  | some f =>
    obtain ⟨m', events, s₁, hf, hr⟩ := evaluateDependency_stopped h hnow hstop
    have hname : d.name.isWritable = true := by
      by_contra hname
      cases ht.symm.trans (turn_untold (Bool.eq_false_iff.mpr hname) hcancel hf hr.recording.unlogged)
    have hturn := ht.symm.trans (turn_skipped hname hcancel hf hr.recording.unlogged)
    obtain ⟨rfl, rfl⟩ : error = f.fault.message ∧ s' = _ := by simpa using hturn
    refine ⟨⟨f, rfl, rfl⟩, .of_filed h.violations hr.filing ?_⟩
    rw [hr.state]

/-- The turns of a run are attempts, and each that is skipped leaves behind what it filed. -/
theorem turns_attempts : ∀ {l : List (Dependency × Nat)} {m : MemoryStore Violation} {s : GateState},
    Recording m s → evaluationTime c s = now →
    ∃ attempts s', Attempts (turn others evaluationId tenantId policies c cancel before) s l attempts s' ∧
      ∀ a ∈ attempts, ∀ error, a.ending = .ok (.skipped error) →
        (∃ f, (dependencyCourse a.dependency c now policies).stop = some f ∧ f.fault.message = error) ∧
          Left now (dependencyCourse a.dependency c now policies)
            (.dependencyFailed evaluationId tenantId a.dependency.name error) a
  | [], m, s, _, _ => ⟨[], s, .nil s, by simp⟩
  | (d, n) :: l, m, s, h, hnow => by
    obtain ⟨t, m₁, s₁, ht, h₁, hclock⟩ := turn_recording h n
    have hnow₁ : evaluationTime c s₁ = now := by
      rw [← hnow, evaluationTime, hclock, evaluationTime]
    obtain ⟨attempts, s₂, hrest, hleft⟩ := turns_attempts h₁ hnow₁
    refine ⟨⟨d, t, s, s₁⟩ :: attempts, s₂, .cons ht hrest, List.forall_mem_cons.mpr ⟨?_, hleft⟩⟩
    rintro error rfl
    exact turn_left h hnow ht

/-- A run that returns reports on its turns. -/
theorem evaluateAll_reports {ds : List Dependency} {active : List Policy} {turns : Reading (List (Dependency × Turn))}
    {r : EnforcementResult} {s₁ : GateState} (hl : s.logsEvents = false)
    (hactive : Policy.active (policies.filter (·.tenantId.same tenantId)) = .ok active)
    (hturns : outcome (takeAll (turn others (runId s) tenantId active c cancel s.events.length) ds.zipIdx)
      (begun s tenantId ds.length) = (turns, s₁))
    (hr : Returns (evaluateAll others ds tenantId policies c cancel) s r s') :
    ∃ ts, turns = .ok ts ∧ r.evaluations = evaluationsOf ts ∧ r.errors = errorsOf ts := by
  rw [Returns, outcome_evaluateAll hl] at hr
  obtain ⟨r', s₂, hrun, hr⟩ := returns_bind.mp hr
  obtain ⟨_, _, -, hr⟩ := returns_bind.mp hr
  obtain ⟨rfl, -⟩ := returns_pure.mp hr
  rcases returns_tryCatch.mp hrun with hrun | ⟨f, _, -, hfail⟩
  · obtain ⟨active', _, hread, hrun⟩ := returns_bind.mp hrun
    obtain ⟨ha, rfl⟩ := returns_ofReading.mp hread
    obtain rfl : active = active' := Except.ok.inj (hactive.symm.trans ha)
    obtain ⟨ts, s₃, ht, hrun⟩ := returns_bind.mp hrun
    obtain ⟨rfl, rfl⟩ : turns = .ok ts ∧ s₁ = s₃ := by simpa using hturns.symm.trans ht
    obtain ⟨finish, _, -, hrun⟩ := returns_bind.mp hrun
    obtain ⟨summary, _, -, hrun⟩ := returns_bind.mp hrun
    obtain ⟨_, _, -, hrun⟩ := returns_bind.mp hrun
    obtain ⟨rfl, -⟩ := returns_pure.mp hrun
    exact ⟨ts, rfl, rfl, rfl⟩
  · obtain ⟨_, _, -, hfail⟩ := returns_bind.mp hfail
    exact absurd hfail returns_throw

end Attempts

end Gate

open Gate

/-- **What a skipped dependency leaves behind.** Wherever requests lead, a run against policies that can
be put in order makes one attempt after the other, and reports on them if it returns. An attempt is
skipped with the error that stops the course of its dependency. It leaves behind the findings that the
course came to before, and tells of the violations that these opened again and of its failure; if no
rule fired before, it has changed no violation and told of the failure only. -/
theorem skipped_attempts {allowed : Request → Prop} {s : GateState} (h : Reachable allowed s)
    {tenantId : Value} {policies active : List Policy} (others : Collaborators) (ds : List Dependency)
    (c : EvaluationContext) (cancel : Cancellation)
    (hactive : Policy.active (policies.filter (·.tenantId.same tenantId)) = .ok active) :
    ∃ attempts s₁,
      Attempts (turn others (runId s) tenantId active c cancel s.events.length) (begun s tenantId ds.length)
        ds.zipIdx attempts s₁ ∧
      (∀ r s', Returns (evaluateAll others ds tenantId policies c cancel) s r s' →
        ∃ turns, attempts.map Attempt.turn = turns.map .ok ∧
          r.evaluations = evaluationsOf turns ∧ r.errors = errorsOf turns) ∧
      ∀ a ∈ attempts, ∀ error, a.ending = .ok (.skipped error) →
        let x := dependencyCourse a.dependency c (evaluationTime c s) active
        (∃ f, x.stop = some f ∧ f.fault.message = error) ∧
          Left (evaluationTime c s) x (.dependencyFailed (runId s) tenantId a.dependency.name error) a := by
  obtain ⟨m, hm⟩ := h.recording
  obtain ⟨attempts, s₁, hattempts, hleft⟩ := turns_attempts (hm.begun tenantId ds.length)
    (show evaluationTime c (begun s tenantId ds.length) = evaluationTime c s from rfl)
  refine ⟨attempts, s₁, hattempts, fun r s' hr => ?_, hleft⟩
  obtain ⟨turns, hturns, hreport⟩ := evaluateAll_reports hm.unlogged hactive hattempts.outcome hr
  exact ⟨turns, eq_map_of_mapM_id hturns, hreport⟩

section Sample

open Sample

/-- A policy with two rules that both find something. -/
def twofold : Policy := policy "t" "p" [rule "r" (absent "x"), rule "q" (absent "x")] []

/-- The exception from the second rule, which is active and never expires. -/
def endlessSecond : PolicyException := { endless with ruleId := "q" }

/-- The service after it was asked to create the policy and for the exception. -/
def halfway : GateState :=
  (outcome (Request.addException "p" endlessSecond).run
    (outcome (Request.createPolicy "t" (.record twofold) "u").run gate).2).2

/-- The policy as the service has it. -/
def halfwayPolicy : Policy := { twofold with createdBy := "u", exceptions := .held [.held endlessSecond] }

theorem halfway_reachable : Reachable Request.ofService halfway :=
  .request (.request (.start moment {}) trivial) trivial

theorem halfway_active : Policy.active [halfwayPolicy] = .ok [halfwayPolicy] := Policy.active_singleton rfl

theorem halfway_ranked : rankedOf halfway "t" = .ok [halfwayPolicy] :=
  sortDescending_singleton (·.priority) halfwayPolicy

/-- The course of the sample dependency: the first rule finds something, the second cannot be checked. -/
theorem halfway_course : ∃ r v f, dependencyCourse (dependency "lib") .empty moment [halfwayPolicy] =
    ⟨[.taken "p", .found r v], some f⟩ := by
  unfold dependencyCourse
  rw [halfway_active]
  exact ⟨_, _, _, rfl⟩

theorem skipped_attempts_halfway :
    Reachable Request.ofService halfway ∧
      Policy.active ([halfwayPolicy].filter (·.tenantId.same "t")) = .ok [halfwayPolicy] ∧
      ∃ attempts s₁,
        Attempts (turn .none (runId halfway) "t" [halfwayPolicy] .empty (fun _ _ => false) halfway.events.length)
          (begun halfway "t" 1) [(dependency "lib", 0)] attempts s₁ ∧
        ∀ a ∈ attempts, ∀ error, a.ending = .ok (.skipped error) →
          let x := dependencyCourse a.dependency .empty moment [halfwayPolicy]
          (∃ f, x.stop = some f ∧ f.fault.message = error) ∧
            Left moment x (.dependencyFailed (runId halfway) "t" a.dependency.name error) a := by
  have hactive : Policy.active ([halfwayPolicy].filter (·.tenantId.same "t")) = .ok [halfwayPolicy] :=
    halfway_active
  obtain ⟨attempts, s₁, h, -, hleft⟩ := skipped_attempts halfway_reachable .none
    [dependency "lib"] .empty (fun _ _ => false) hactive
  exact ⟨halfway_reachable, hactive, attempts, s₁, h, hleft⟩

/-- A dependency is skipped because its second rule cannot be checked, and the finding of the first rule
stays in the store. -/
theorem skipped_attempt_leaves_finding :
    ∃ s, Reachable Request.ofService s ∧ ∃ ranked active, rankedOf s "t" = .ok ranked ∧
      Policy.active (ranked.filter (·.tenantId.same "t")) = .ok active ∧
      ∃ attempts s₁,
        Attempts (turn .none (runId s) "t" active .empty (fun _ _ => false) s.events.length) (begun s "t" 1)
          [(dependency "lib", 0)] attempts s₁ ∧
        ∃ a ∈ attempts, ∃ error, a.ending = .ok (.skipped error) ∧
          ¬ a.Traceless (.dependencyFailed (runId s) "t" a.dependency.name error) := by
  obtain ⟨r, v, f, hcourse⟩ := halfway_course
  obtain ⟨m, hm⟩ := halfway_reachable.recording
  obtain rfl : m = .empty := (Store.memory.inj hm.violations).symm
  have hbegun := hm.begun "t" 1
  obtain ⟨m', events, s₁, hf, hr⟩ : ∃ m' events s₁,
      Fails (evaluateDependency (dependency "lib") [halfwayPolicy] .empty) (begun halfway "t" 1) f.fault s₁ ∧
      Recorded moment (dependencyCourse (dependency "lib") .empty moment [halfwayPolicy]).findings .empty
        (begun halfway "t" 1) m' events s₁ :=
    evaluateDependency_stopped hbegun rfl (congrArg Course.stop hcourse)
  have hturn : outcome (turn .none (runId halfway) "t" [halfwayPolicy] .empty (fun _ _ => false)
      halfway.events.length (dependency "lib", 0)) (begun halfway "t" 1) =
      (Except.map (dependency "lib", ·) (.ok (.skipped f.fault.message)), _) :=
    turn_skipped rfl rfl hf hr.recording.unlogged
  refine ⟨halfway, halfway_reachable, _, _, halfway_ranked, halfway_active, _, _, .cons hturn (.nil _), _,
    List.mem_cons_self, _, rfl, fun htraceless => ?_⟩
  have hmem : v ∈ (dependencyCourse (dependency "lib") .empty moment [halfwayPolicy]).findings := by
    rw [hcourse]
    exact List.mem_cons_self
  have hfound : (m'.byIndex v.key).isSome := hr.filing.found hbegun.filed v hmem
  have hempty : Store.memory m' = .memory .empty := by
    rw [← hr.recording.violations]
    exact htraceless.1
  obtain rfl := Store.memory.inj hempty
  cases hfound

end Sample

end SupplyGate
