import SupplyGate.Proofs.Gate.Runs
import SupplyGate.Proofs.Policy.Expiry

/-!
# Runs and the policies on record

A run is given its policies, and never looks at those on record: whatever these are, it gives the same
result, and leaves the same state but for them (`blind_evaluateAll`). And where the policies that it is
given were swept at a time that is not after that of the run, it is the same run as without the sweep
(`evaluateAll_swept`).
-/

namespace SupplyGate.Gate

variable {α β : Type}

/-! ## Steps that do not look at the policies on record -/

/-- The step does the same whatever policies are on record, and leaves them as they are. -/
def Blind (x : Gate α) : Prop :=
  ∀ s (P : Store Policy),
    outcome x { s with policies := P } = ((outcome x s).1, { (outcome x s).2 with policies := P })

theorem blind_pure (a : α) : Blind (pure a : Gate α) := fun _ _ => rfl

theorem blind_throw (f : Fault) : Blind (throw f : Gate α) := fun _ _ => rfl

theorem blind_ofReading (r : Reading α) : Blind (ofReading r) := fun s P => by
  rw [outcome_ofReading, outcome_ofReading]

theorem Blind.bind {x : Gate α} {f : α → Gate β} (hx : Blind x) (hf : ∀ a, Blind (f a)) : Blind (x >>= f) := by
  intro s P
  rw [outcome_bind, outcome_bind, hx s P]
  rcases outcome x s with ⟨e | a, t⟩
  · rfl
  · exact hf a t P

/-- A step may read the gate, as long as what it makes of it does not hang on the policies on record. -/
theorem blind_get_bind {f : GateState → Gate α} (hsame : ∀ s P, f { s with policies := P } = f s)
    (hf : ∀ s, Blind (f s)) : Blind (get >>= f) := by
  intro s P
  rw [outcome_bind, outcome_bind, outcome_get, outcome_get]
  dsimp only
  rw [hsame]
  exact hf s s P

theorem Blind.tryCatch {x : Gate α} {handle : Fault → Gate α} (hx : Blind x) (hh : ∀ f, Blind (handle f)) :
    Blind (tryCatch x handle) := by
  intro s P
  rw [outcome_tryCatch, outcome_tryCatch, hx s P]
  rcases outcome x s with ⟨e | a, t⟩
  · exact hh e t P
  · rfl

theorem Blind.mapM {f : α → Gate β} (hf : ∀ a, Blind (f a)) : ∀ as : List α, Blind (as.mapM f)
  | [] => blind_pure []
  | a :: as => by
    rw [List.mapM_cons]
    exact (hf a).bind fun b => (Blind.mapM hf as).bind fun bs => blind_pure _

/-- Steps that are all taken are blind if each of them is. -/
theorem Blind.takeAll {f : α → Gate β} (hf : ∀ a, Blind (f a)) (as : List α) : Blind (takeAll f as) :=
  (Blind.mapM (fun a => ((hf a).bind fun _ => blind_pure _).tryCatch fun _ => blind_pure _) as).bind fun _ =>
    blind_ofReading _

theorem Blind.foldlM {f : β → α → Gate β} (hf : ∀ b a, Blind (f b a)) : ∀ (as : List α) (b : β),
    Blind (as.foldlM f b)
  | [], b => blind_pure b
  | a :: as, b => by
    rw [List.foldlM_cons]
    exact (hf b a).bind fun c => Blind.foldlM hf as c

/-! ### Clock, ids, events, calls and other stores -/

theorem blind_clock : Blind clock := fun _ _ => rfl

theorem blind_fresh (kind : IdKind) : Blind (fresh kind) := fun _ _ => rfl

theorem blind_noteCall (call : CollaboratorCall) : Blind (noteCall call) := fun _ _ => rfl

theorem blind_publish (e : Event) : Blind (publish e) := by
  refine blind_get_bind (fun _ _ => rfl) fun s => ?_
  have htell : Blind (modify fun s => { s with events := s.events ++ [e] } : Gate Unit) := fun _ _ => rfl
  dsimp only
  split
  · refine Blind.bind (fun s P => ?_) fun _ => htell
    rw [outcome_discard, outcome_discard, outcome_ofReading, outcome_ofReading]
  · exact htell

theorem blind_strategyOf (tenantId : Value) : Blind (strategyOf tenantId) := by
  refine Blind.bind (fun s P => ?_) fun _ => blind_pure _
  rw [outcome_find, outcome_find]
  rfl

theorem blind_keepResult (r : EnforcementResult) : Blind (keep .evaluations r) := by
  intro s P
  rw [outcome_keep, outcome_keep]
  have hread : Shelf.evaluations.read { s with policies := P } = Shelf.evaluations.read s := rfl
  rw [hread]
  cases (Shelf.evaluations.read s).put r <;> rfl

theorem blind_record (now : Timestamp) (v : Violation) : Blind (record now v) := by
  refine (blind_ofReading _).bind fun _ => Blind.bind (fun s P => ?_) fun found => ?_
  · rw [outcome_findOrAdd, outcome_findOrAdd]
    have hread : Shelf.violations.read { s with policies := P } = Shelf.violations.read s := rfl
    rw [hread]
    rcases (Shelf.violations.read s).getOrAdd s.now v.key v (Finding.seenAgain now v) with f | ⟨found, t⟩ <;> rfl
  · cases found.previous with
    | none => exact blind_pure _
    | some old =>
      dsimp only
      split
      · exact (blind_publish _).bind fun _ => blind_pure _
      · exact blind_pure _

/-! ### Actions -/

section Actions

variable (others : Collaborators) (config : ActionConfig) (v : Violation) (c : EvaluationContext)

theorem blind_log : Blind (log config v) := by
  refine (blind_ofReading _).bind fun level => ?_
  dsimp only
  split
  · exact (blind_throw _).bind fun _ => (blind_ofReading _).bind fun _ => (blind_publish _).bind fun _ => blind_pure _
  · exact (blind_ofReading _).bind fun _ => (blind_publish _).bind fun _ => blind_pure _

theorem blind_askNotifier : Blind (askNotifier others config v) := by
  refine (blind_publish _).bind fun _ => ?_
  cases others.notifier with
  | none => exact blind_pure _
  | some reply => exact (blind_noteCall _).bind fun _ => blind_get_bind (fun _ _ => rfl) fun s => blind_pure _

theorem blind_notify : Blind (notify others config v) :=
  (blind_askNotifier others config v).bind fun _ => (blind_ofReading _).bind fun _ => blind_pure _

theorem blind_autoFix : Blind (autoFix config v c) := by
  refine (blind_ofReading _).bind fun strategy => (blind_strategyOf _).bind fun s => ?_
  exact (blind_ofReading _).bind fun approving => (blind_publish _).bind fun _ => blind_pure _

theorem blind_askTracker (tracker : IssueTracker) (issue : Value) : Blind (askTracker others tracker issue) := by
  unfold askTracker
  cases others.tracker with
  | none => exact blind_pure _
  | some reply => exact (blind_noteCall _).bind fun _ => blind_get_bind (fun _ _ => rfl) fun s => blind_pure _

theorem blind_createIssue : Blind (createIssue others config v) := by
  unfold createIssue
  cases config.issueTracker with
  | none => exact blind_throw _
  | some tracker =>
    refine (blind_ofReading _).bind fun issue => (blind_askTracker others tracker issue).bind fun answer => ?_
    exact (blind_ofReading _).bind fun key => (blind_publish _).bind fun _ => blind_pure _

theorem blind_perform (a : RuleAction) : Blind (perform others v c a) := by
  unfold perform
  cases (Scale.ofText? a.type : Option ActionType) with
  | none => exact blind_throw _
  | some type =>
    cases type with
    | block => exact (blind_publish _).bind fun _ => blind_pure _
    | warn => exact (blind_publish _).bind fun _ => blind_pure _
    | log => exact blind_log _ _
    | notify => exact blind_notify _ _ _
    | autoFix => exact blind_autoFix _ _ _
    | createIssue => exact blind_createIssue _ _ _
    | escalate => exact blind_clock.bind fun _ => (blind_publish _).bind fun _ => blind_pure _

theorem blind_execute : Blind (execute others c v) := by
  refine Blind.mapM (fun a => ?_) _
  refine Blind.tryCatch ?_ fun f => blind_clock.bind fun _ => blind_pure _
  exact (blind_perform others v c a).bind fun _ => blind_clock.bind fun _ => blind_pure _

end Actions

/-! ### Evaluations and runs -/

section Runs

variable (others : Collaborators) (policies : List Policy) (c : EvaluationContext)

theorem blind_raise (e : Stop) : Blind (raise e) := by
  unfold raise
  cases e.spent with
  | false => exact blind_throw _
  | true => exact fun _ _ => rfl

theorem blind_fileCourse (now : Timestamp) (x : Course) (t : Tally) : Blind (fileCourse now x t) := by
  have hnote : ∀ t n, Blind (fileNote now t n) := by
    intro t n
    cases n with
    | found r v =>
      exact ((blind_fresh _).bind fun id => blind_record _ _).bind fun _ => blind_pure _
    | _ => exact blind_pure _
  refine (Blind.foldlM hnote x.notes t).bind fun t => ?_
  cases x.stop with
  | none => exact blind_pure _
  | some e => exact blind_raise e

theorem blind_evaluateDependency (d : Dependency) : Blind (evaluateDependency d policies c) := by
  rw [evaluateDependency_eq_course]
  exact blind_get_bind (fun _ _ => rfl) fun s => (blind_fileCourse _ _ _).bind fun _ => blind_pure _

theorem blind_evaluateAndAct (d : Dependency) : Blind (evaluateAndAct others policies c d) :=
  (blind_evaluateDependency policies c d).bind fun _ =>
    (Blind.mapM (fun v => blind_execute others v c) _).bind fun _ => blind_pure _

theorem blind_runTurns (evaluationId tenantId : Value) (cancel : Cancellation) (before : Nat) (start : Timestamp)
    (ds : List Dependency) : Blind (runTurns others evaluationId tenantId policies c cancel before start ds) := by
  have hturn : ∀ active dn, Blind (turn others evaluationId tenantId active c cancel before dn) := by
    intro active (d, n)
    rw [turn_eq]
    refine blind_get_bind (fun _ _ => rfl) fun s => ?_
    split
    · exact blind_pure _
    · refine ((blind_evaluateAndAct others active c d).tryCatch fun f => ?_).bind fun _ => blind_pure _
      exact (blind_ofReading _).bind fun _ => (blind_publish _).bind fun _ => blind_pure _
  refine (blind_ofReading _).bind fun active => (Blind.takeAll (hturn active) _).bind fun turns => ?_
  refine blind_clock.bind fun finish => (blind_ofReading _).bind fun summary => ?_
  exact (blind_keepResult _).bind fun _ => blind_pure _

/-- **A run does not look at the policies on record.** -/
theorem blind_evaluateAll (ds : List Dependency) (tenantId : Value) (cancel : Cancellation) :
    Blind (evaluateAll others ds tenantId policies c cancel) := by
  rw [evaluateAll_eq]
  refine (blind_fresh _).bind fun _ => blind_get_bind (fun _ _ => rfl) fun s => ?_
  refine (blind_publish _).bind fun _ => Blind.bind (Blind.tryCatch ?_ fun f => ?_) fun r => ?_
  · exact blind_runTurns others policies c _ _ cancel _ _ ds
  · exact (blind_publish _).bind fun _ => blind_throw _
  · exact (blind_publish _).bind fun _ => blind_pure _

end Runs

/-! ## Policies that were swept -/

section Swept

variable {others : Collaborators} {c : EvaluationContext} {n now : Timestamp} {policies : List Policy}

theorem evaluateDependency_swept (hc : c.now = some now) (hn : n.instant ≤ now.instant) (d : Dependency) :
    evaluateDependency d (policies.map (Policy.swept n)) c = evaluateDependency d policies c := by
  rw [evaluateDependency_eq_course, evaluateDependency_eq_course]
  refine bind_congr fun s => ?_
  have htime : evaluationTime c s = now := by rw [evaluationTime, hc, Option.getD_some]
  dsimp only
  rw [htime, dependencyCourse_swept hn]

/-- **A run against swept policies is a run against the policies**, if the sweep was not after its time. -/
theorem evaluateAll_swept (hc : c.now = some now) (hn : n.instant ≤ now.instant) (ds : List Dependency)
    (tenantId : Value) (cancel : Cancellation) :
    evaluateAll others ds tenantId (policies.map (Policy.swept n)) c cancel =
      evaluateAll others ds tenantId policies c cancel := by
  have hact : ∀ active d,
      evaluateAndAct (m := Gate) others (active.map (Policy.swept n)) c d = evaluateAndAct others active c d := by
    intro active d
    rw [evaluateAndAct, evaluateDependency_swept hc hn]
    rfl
  have hturn : ∀ evaluationId before active,
      turn (m := Gate) others evaluationId tenantId (active.map (Policy.swept n)) c cancel before =
        turn others evaluationId tenantId active c cancel before := by
    intro evaluationId before active
    funext (d, position)
    rw [turn_eq, turn_eq, hact]
  have hsummary : ∀ (active : List Policy) evaluations executed,
      summarize (active.map (Policy.swept n)) evaluations executed = summarize active evaluations executed := by
    intro active evaluations executed
    rw [summarize, summarize, List.length_map]
  have hturns : ∀ evaluationId before start,
      runTurns others evaluationId tenantId (policies.map (Policy.swept n)) c cancel before start ds =
        runTurns others evaluationId tenantId policies c cancel before start ds := by
    intro evaluationId before start
    unfold runTurns
    rw [List.filter_map]
    have htenant : (fun p : Policy => p.tenantId.same tenantId) ∘ Policy.swept n = fun p => p.tenantId.same tenantId :=
      rfl
    rw [htenant, Policy.active_swept]
    cases Policy.active (policies.filter (·.tenantId.same tenantId)) with
    | error f => rfl
    | ok active =>
      change (do
        let turns ← takeAll (turn others evaluationId tenantId (active.map (Policy.swept n)) c cancel before) ds.zipIdx
        conclude evaluationId tenantId (active.map (Policy.swept n)) start ds turns) = _
      rw [hturn]
      unfold conclude
      simp only [hsummary]
      rfl
  rw [evaluateAll_eq, evaluateAll_eq]
  simp only [hturns]

end Swept

end SupplyGate.Gate
