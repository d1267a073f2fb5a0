import SupplyGate.Proofs.Gate.Planned
import SupplyGate.Proofs.Session.Lifecycle

/-!
# Triage decisions and detection

A violation on record that an evaluation detects again is refreshed by the last finding with its text.
Whatever the finding says, an open or acknowledged violation keeps its status, its resolution and its
assignment, and a resolved one is open again; that a violation was suppressed or is a false positive is
never taken back, and no event tells of it. But the finding also writes its message, its details and its
context over such a violation, so the decision is kept as it was recorded, but for the time, just when
the finding tells the same of it (`triage_kept_iff`).
-/

namespace SupplyGate

open Gate

theorem Violation.Dismissed.ne_resolved {v : Violation} (h : v.Dismissed) : v.status ≠ .resolved := by
  rcases h with h | h <;> simp [h]

/-- Two violations tell the same: they have the same message, details and context. -/
structure Violation.TellsSame (v w : Violation) : Prop where
  message : v.message = w.message
  details : v.details = w.details
  context : v.context = w.context

/-- What triage decided about a violation is kept as it is detected again: one that is dismissed only
moves in time, one that is open or acknowledged keeps its status, resolution, assignment and first
detection, and one that is resolved is open again under its id, without a resolution. -/
structure Violation.TriageKept (v w : Violation) : Prop where
  dismissed : v.Dismissed → w = { v with lastSeen := w.lastSeen }
  pending : v.status = .open ∨ v.status = .acknowledged →
    w.status = v.status ∧ w.resolution = v.resolution ∧ w.resolvedBy = v.resolvedBy ∧
      w.resolvedAt = v.resolvedAt ∧ w.assignedTo = v.assignedTo ∧ w.firstDetected = v.firstDetected
  reopened : v.status = .resolved →
    w.status = .open ∧ w.resolution = .null ∧ w.resolvedBy = .null ∧ w.resolvedAt = none ∧ w.id = v.id

/-- A violation that is not resolved keeps all but what a finding tells. -/
theorem Finding.seenAgain_of_ne {v : Violation} (h : v.status ≠ .resolved) (now : Timestamp) (f : Violation) :
    seenAgain now f v =
      { v with lastSeen := now, message := f.message, details := f.details, context := f.context } := by
  rw [seenAgain, if_neg h]

/-- The triage of a violation is kept by a finding just when the finding tells the same of it, if it is
dismissed. -/
theorem Finding.triageKept_iff (now : Timestamp) (f v : Violation) :
    v.TriageKept (seenAgain now f v) ↔ (v.Dismissed → f.TellsSame v) := by
  constructor
  · intro h hv
    have hkept := h.dismissed hv
    rw [seenAgain_of_ne hv.ne_resolved] at hkept
    have hmessage := congrArg Violation.message hkept
    have hdetails := congrArg Violation.details hkept
    have hcontext := congrArg Violation.context hkept
    exact ⟨hmessage, hdetails, hcontext⟩
  · intro h
    refine ⟨fun hv => ?_, fun hv => ?_, fun hv => ?_⟩
    · obtain ⟨hmessage, hdetails, hcontext⟩ := h hv
      rw [seenAgain_of_ne hv.ne_resolved, hmessage, hdetails, hcontext]
    · have hopen : v.status ≠ .resolved := by rcases hv with hv | hv <;> simp [hv]
      rw [seenAgain_of_ne hopen]
      exact ⟨rfl, rfl, rfl, rfl, rfl, rfl⟩
    · simp [seenAgain, hv]

/-! ## Every violation can be found by its text -/

/-- Every request keeps the violations of a service traceable. -/
theorem traceable_aside : Aside (fun s => ∃ m, Recording m s ∧ m.Traceable) fun _ => True where
  recorded s r t hs ht := by
    obtain ⟨m, h, htrace⟩ := hs
    exact ⟨m, (recording_runLaw m).recorded s r t h ht, htrace⟩
  numbered s kind hs := by
    obtain ⟨m, h, htrace⟩ := hs
    exact ⟨m, h.bump kind, htrace⟩
  published s e hs := by
    obtain ⟨m, h, htrace⟩ := hs
    exact ⟨m, h.publish e, htrace⟩
  called s call hs := by
    obtain ⟨m, h, htrace⟩ := hs
    exact ⟨m, (recording_runLaw m).called s call h, htrace⟩
  policies _ _ hs := by
    obtain ⟨m, h, htrace⟩ := hs
    exact ⟨m, ⟨h.unlogged, h.violations, h.given, h.filed, h.results⟩, htrace⟩
  strategies _ _ hs := by
    obtain ⟨m, h, htrace⟩ := hs
    exact ⟨m, ⟨h.unlogged, h.violations, h.given, h.filed, h.results⟩, htrace⟩
  clocked _ _ hs := by
    obtain ⟨m, h, htrace⟩ := hs
    exact ⟨m, ⟨h.unlogged, h.violations, h.given, h.filed, h.results⟩, htrace⟩
  triaged s id v w t hs hv htriaged ht := by
    obtain ⟨m, h, htrace⟩ := hs
    have hsame : v.Same w := .of_triaged htriaged
    rw [h.violations] at hv ht
    obtain ⟨t', ht', rfl⟩ := Store.put_memory.mp ht
    obtain ⟨k, hk, rfl⟩ := MemoryStore.put_back h.filed.keyed hv hsame.id ht'
    obtain ⟨text, rfl, -⟩ := h.key_eq hk
    exact ⟨_, h.stored hk hsame, htrace.store hk hsame.key⟩
  detected _ _ _ _ _ _ _ _ := by
    refine keeps_detect_of_file (fun s hs => ⟨?_, fun _ _ => trivial⟩) fun v new s hs => ⟨?_, fun _ _ => trivial⟩
    · obtain ⟨m, h, htrace⟩ := hs
      exact ⟨m, h.bump .violation, htrace⟩
    · obtain ⟨m, h, htrace⟩ := hs
      obtain ⟨text, found, t, named, hg, ho, ht⟩ := file_stores h new
      rw [ho]
      exact ⟨t, ht, htrace.stored h.filed named hg⟩

/-- Wherever requests lead, the state tells the life of each violation, and each can be found by its text. -/
theorem Reachable.traceable {allowed : Request → Prop} {s : GateState} (h : Reachable allowed s) :
    ∃ signed m, Chronicle signed s.events m m s ∧ m.Traceable := by
  obtain ⟨m, hm⟩ := h.chronicle
  have hlaw := numbered_law.aside traceable_aside
  have hstart (now : Timestamp) (ids : Ids) : Recording .empty (.start .memory now ids) :=
    (Chronicle.start now ids : Chronicle True [] .empty .empty _).toRecording
  obtain ⟨-, m', hm', htrace⟩ : Numbered s ∧ ∃ m', Recording m' s ∧ m'.Traceable :=
    h.keeps (fun now ids => ⟨.start now ids, .empty, hstart now ids, .empty⟩) fun r _ =>
      hlaw.keeps_request r fun _ _ _ _ _ _ => trivial
  obtain rfl : m = m' := Store.memory.inj (hm.violations.symm.trans hm'.violations)
  exact ⟨_, m, hm.anew, htrace⟩

/-! ## Evaluations -/

/-- What filing findings makes of a violation on record, when these events are published: nothing if none
has its text; what the last finding with its text makes of it otherwise, which keeps its triage just when
that finding tells the same of it, if it is dismissed. No event tells of a step of one that is
dismissed. -/
structure Redetected (now : Timestamp) (found : List Violation) (events : List Event) (v w : Violation) :
    Prop where
  spared : (∀ f ∈ found, f.key ≠ v.key) → w = v
  seen : ∀ f, Finding.lastWith v.key found = some f → w = Finding.seenAgain now f v
  kept_iff : ∀ f, Finding.lastWith v.key found = some f → (v.TriageKept w ↔ (v.Dismissed → f.TellsSame v))
  untold : v.Dismissed → ∀ e ∈ events, ∀ c, e.change ≠ some (v.id, c)

/-- An evaluation that leads from one state to another files findings: each violation on record is
detected again by those with its text. -/
def Redetects (now : Timestamp) (found : List Violation) (m : MemoryStore Violation) (s s' : GateState) : Prop :=
  ∃ m' events, s'.violations = .memory m' ∧ s'.events = s.events ++ events ∧
    ∀ k v, (k, v) ∈ m.records → ∃ w, m'.lookup k = some w ∧ Redetected now found events v w

/-- The findings of a run over a batch for a tenant whose turns at some positions are cancelled. There are
none if the policies cannot be put in order. -/
def batchFindings (ds : List Dependency) (tenantId : Value) (policies : List Policy) (c : EvaluationContext)
    (now : Timestamp) (stop : Nat → Bool) : List Violation :=
  match Policy.active (policies.filter (·.tenantId.same tenantId)) with
  | .error _ => []
  | .ok active => (Plan.of active c now stop ds.zipIdx).findings

section Redetects

variable {signed : Prop} {now : Timestamp} {m m' : MemoryStore Violation} {s s' : GateState}
  {found : List Violation} {filed events : List Event}

/-- No event tells of a violation that was dismissed before. -/
theorem Chronicle.untold (h : Chronicle signed s.events m m' s') (he : s'.events = s.events ++ events)
    {id : String} {v : Violation} (hv : m.lookup (.str id) = some v) (hdismissed : v.Dismissed) :
    ∀ e ∈ events, ∀ c, e.change ≠ some (.str id, c) := by
  intro e hmem c hc
  have hquiet := h.quiet id v hv hdismissed
  rw [he, history_append] at hquiet
  have hnone : history id events = [] := List.append_right_eq_self.mp hquiet
  have hsome : e.stepOf id = some c := by simp [Event.stepOf, hc]
  rw [List.filterMap_eq_nil_iff.mp hnone e hmem] at hsome
  cases hsome

/-- A step that files findings and goes on with the chronicle detects each violation on record again by those
with its text. -/
theorem redetects_of_filing {α : Type} {x : Gate α} {r : Reading α} (h : Chronicle signed s.events m m s)
    (htrace : m.Traceable) (hkeeps : Keeps (fun t => ∃ m', Chronicle signed s.events m m' t) x) (ho : outcome x s = (r, s')) (hrec : Recording m' s')
    (hf : MemoryStore.Filing now m found m' filed) (he : s'.events = s.events ++ events) :
    Redetects now found m s (outcome x s).2 := by
  obtain ⟨m'', h'⟩ := (hkeeps s ⟨m, h⟩).1
  rw [ho] at h' ⊢
  obtain rfl : m' = m'' := Store.memory.inj (hrec.violations.symm.trans h'.violations)
  refine ⟨m', events, h'.violations, he, fun k v hmem => ?_⟩
  have hv := h.distinct.lookup_of_mem hmem
  obtain ⟨id, rfl, hid⟩ := h.key_eq hv
  have hseen : ∀ f, Finding.lastWith v.key found = some f →
      Finding.seenLast now found v = Finding.seenAgain now f v := fun _ => Finding.seenLast_of_some
  refine ⟨_, hf.lookup h.filed htrace hv, fun hnone => ?_, hseen, fun f hlast => ?_, fun hdismissed => ?_⟩
  · exact Finding.seenLast_of_none (Finding.lastWith_eq_none.mpr hnone)
  · rw [hseen f hlast]
    exact Finding.triageKept_iff now f v
  · rw [hid]
    exact h'.untold he hv hdismissed

theorem redetects_evaluateDependency (h : Chronicle signed s.events m m s) (htrace : m.Traceable) (d : Dependency)
    (policies : List Policy) (c : EvaluationContext) :
    Redetects (evaluationTime c s) (dependencyCourse d c (evaluationTime c s) policies).findings m s
      (outcome (evaluateDependency d policies c) s).2 := by
  obtain ⟨r, m', events, s', ho, hrec, -⟩ := evaluateDependency_recorded h.toRecording rfl d policies
  have hkeeps : Keeps (fun t => ∃ m', Chronicle signed s.events m m' t) (evaluateDependency d policies c) :=
    (chronicle_conduct signed s.events m).keeps_evaluateDependency fun _ _ => trivial
  exact redetects_of_filing h htrace hkeeps ho hrec.recording hrec.filing (congrArg GateState.events hrec.state)

/-- A run that is cancelled at some positions files the findings that it plans. -/
theorem ran_batchFindings (h : Recording m s) (others : Collaborators) (ds : List Dependency) (tenantId : Value)
    (policies : List Policy) (c : EvaluationContext) (stop : Nat → Bool) :
    ∃ r m' s' p, outcome (evaluateAll others ds tenantId policies c fun n _ => stop n) s = (r, s') ∧
      Ran (evaluationTime c s) p m s m' s' ∧
      p.findings = batchFindings ds tenantId policies c (evaluationTime c s) stop := by
  unfold batchFindings
  cases hactive : Policy.active (policies.filter (·.tenantId.same tenantId)) with
  | error f =>
    obtain ⟨m', s', ho, hran⟩ := evaluateAll_unordered others ds c stop h hactive
    exact ⟨_, m', s', [], ho, hran, rfl⟩
  | ok active =>
    obtain ⟨r, m', s', ho, hran, -⟩ := evaluateAll_ran others ds stop h rfl hactive
    exact ⟨r, m', s', _, ho, hran, rfl⟩

theorem redetects_evaluateAll (h : Chronicle signed s.events m m s) (htrace : m.Traceable) (others : Collaborators)
    (ds : List Dependency) (tenantId : Value) (policies : List Policy) (c : EvaluationContext)
    (stop : Nat → Bool) :
    Redetects (evaluationTime c s) (batchFindings ds tenantId policies c (evaluationTime c s) stop) m s
      (outcome (evaluateAll others ds tenantId policies c fun n _ => stop n) s).2 := by
  obtain ⟨r, m', s', p, ho, hran, hp⟩ := ran_batchFindings h.toRecording others ds tenantId policies c stop
  have hkeeps : Keeps (fun t => ∃ m', Chronicle signed s.events m m' t)
      (evaluateAll others ds tenantId policies c fun n _ => stop n) :=
    (chronicle_conduct signed s.events m).keeps_evaluateAll fun _ _ => trivial
  obtain ⟨filed, hf⟩ := hran.filing
  obtain ⟨events, he, -⟩ := hran.told
  rw [← hp]
  exact redetects_of_filing h htrace hkeeps ho hran.recording hf he

end Redetects

/-- **When triage decisions are kept.** Wherever requests lead, an evaluation of a dependency or a run over
a batch, however it ends and is cancelled, refreshes each violation on record by the last of its findings
with the text of the violation. This keeps what triage decided just when, if the violation is suppressed or
a false positive, that finding has its message, details and context; otherwise these are replaced. No event
tells of a step of such a violation. -/
theorem triage_kept_iff {allowed : Request → Prop} {s : GateState} (h : Reachable allowed s) :
    ∃ m, s.violations = .memory m ∧
      (∀ d policies c,
        Redetects (evaluationTime c s) (dependencyCourse d c (evaluationTime c s) policies).findings m s
          (outcome (evaluateDependency d policies c) s).2) ∧
      (∀ others ds tenantId policies c cancel, ∃ stop : Nat → Bool,
        outcome (evaluateAll others ds tenantId policies c cancel) s =
          outcome (evaluateAll others ds tenantId policies c fun n _ => stop n) s ∧
        Redetects (evaluationTime c s) (batchFindings ds tenantId policies c (evaluationTime c s) stop) m s
          (outcome (evaluateAll others ds tenantId policies c cancel) s).2) ∧
      ∀ others ds tenantId c cancel, outcome (evaluatePolicies others ds tenantId c cancel) s =
        match rankedOf s tenantId with
        | .error f => (.error f, s)
        | .ok ranked => outcome (evaluateAll others ds tenantId ranked c cancel) s := by
  obtain ⟨_, m, hm, htrace⟩ := h.traceable
  refine ⟨m, hm.violations, redetects_evaluateDependency hm htrace, ?_, fun _ _ _ _ _ => outcome_evaluatePolicies _⟩
  intro others ds tenantId policies c cancel
  obtain ⟨stop, hstop⟩ := evaluateAll_stopped others ds tenantId policies c cancel hm.unlogged
  refine ⟨stop, hstop, ?_⟩
  rw [hstop]
  exact redetects_evaluateAll hm htrace others ds tenantId policies c stop

section Sample

open Sample

/-- The service after the dependency was evaluated and its violation suppressed. -/
def hushed : GateState :=
  (outcome (Request.suppress "violation_000000000001" "accepted" "u").run (outcome warned.run gate).2).2

theorem hushed_reachable : Reachable (fun _ => True) hushed :=
  .request (.request (.start moment {}) trivial) trivial

/-- The policy that warns of the dependency. -/
def warning : Policy := policy "t" "p" [rule "r" (absent "x")] []

/-- The context of another project than the one of the first evaluation. -/
def elsewhere : EvaluationContext := { EvaluationContext.empty with project := "other" }

/-- The suppressed violation is on record. What an evaluation in the same context or elsewhere finds differs from
it in what triage decided, and in the context. -/
theorem hushed_record : hushed.now = moment ∧ ∃ v,
    hushed.violations = .memory ⟨[(.str "violation_000000000001", v)], [(v.key, .str "violation_000000000001")]⟩ ∧
      v.status = .suppressed ∧ v.context = .of .empty (dependency "lib") ∧
      ∀ c ∈ [.empty, elsewhere], (dependencyCourse (dependency "lib") c moment [warning]).findings =
        [{ v with
          id := .null, status := .open, resolution := .null, context := .of c (dependency "lib") }] := by
  unfold hushed warned Request.run dependencyCourse
  simp only [outcome_discard]
  rw [evaluateDependency_eq, Policy.active_singleton rfl, Policy.active_singleton rfl]
  refine ⟨rfl, _, rfl, rfl, rfl, fun c hc => ?_⟩
  obtain rfl | rfl := List.mem_pair.mp hc
  · rfl
  · rfl

/-- The suppressed violation is found again, and its triage is kept in the same context. -/
theorem Redetects.hushed {c : EvaluationContext} {m : MemoryStore Violation} {s : GateState}
    (h : Redetects moment (dependencyCourse (dependency "lib") c moment [warning]).findings m hushed s)
    (hm : hushed.violations = .memory m) (hc : c ∈ [.empty, elsewhere]) :
    ∃ m' k v w, (k, v) ∈ m.records ∧ v.status = .suppressed ∧ v.context = .of .empty (dependency "lib") ∧
      s.violations = .memory m' ∧ m'.lookup k = some w ∧ w.context = .of c (dependency "lib") ∧
      (v.context = w.context → v.TriageKept w) := by
  obtain ⟨-, v, hrecord, hstatus, hcontext, hfound⟩ := hushed_record
  obtain rfl := Store.memory.inj (hrecord.symm.trans hm)
  obtain ⟨m', events, hafter, -, hrecords⟩ := h
  obtain ⟨w, hw, hseen⟩ := hrecords _ v List.mem_cons_self
  rw [hfound c hc] at hseen
  have hlast : Finding.lastWith v.key [{ v with
      id := .null, status := .open, resolution := .null, context := .of c (dependency "lib") }] = some _ :=
    List.find?_cons_of_pos (by exact decide_eq_true rfl)
  have hwcontext : w.context = .of c (dependency "lib") := by
    rw [hseen.seen _ hlast, Finding.seenAgain_of_ne (by simp [hstatus])]
  refine ⟨m', _, v, w, List.mem_cons_self, hstatus, hcontext, hafter, hw, hwcontext, fun he => ?_⟩
  exact (hseen.kept_iff _ hlast).mpr fun _ => ⟨rfl, rfl, (he.trans hwcontext).symm⟩

/-- Another evaluation in the same context keeps the decision. -/
theorem triage_kept_iff_hushed :
    Reachable (fun _ => True) hushed ∧ ∃ m m' k v w, hushed.violations = .memory m ∧ (k, v) ∈ m.records ∧
      v.status = .suppressed ∧
      (outcome (evaluateDependency (dependency "lib") [warning] .empty) hushed).2.violations = .memory m' ∧
      m'.lookup k = some w ∧ v.TriageKept w := by
  obtain ⟨m, hm, hdependency, -⟩ := triage_kept_iff hushed_reachable
  have hseen := hdependency (dependency "lib") [warning] .empty
  rw [show evaluationTime .empty hushed = moment from hushed_record.1] at hseen
  obtain ⟨m', k, v, w, hv, hstatus, hcontext, hafter, hw, hcontext', hkept⟩ := hseen.hushed hm List.mem_cons_self
  exact ⟨hushed_reachable, m, m', k, v, w, hm, hv, hstatus, hafter, hw, hkept (hcontext.trans hcontext'.symm)⟩

/-- An evaluation elsewhere writes its context over that of the suppressed violation. -/
theorem suppressed_rewritten :
    Reachable (fun _ => True) hushed ∧ ∃ m m' k v w, hushed.violations = .memory m ∧ (k, v) ∈ m.records ∧
      v.status = .suppressed ∧
      (outcome (evaluateDependency (dependency "lib") [warning] elsewhere) hushed).2.violations = .memory m' ∧
      m'.lookup k = some w ∧ v.context.project = "unknown" ∧ w.context.project = "other" ∧
      w ≠ { v with lastSeen := w.lastSeen } := by
  obtain ⟨_, m, hm, htrace⟩ := hushed_reachable.traceable
  have hseen := redetects_evaluateDependency hm htrace (dependency "lib") [warning] elsewhere
  rw [show evaluationTime elsewhere hushed = moment from hushed_record.1] at hseen
  obtain ⟨m', k, v, w, hv, hstatus, hcontext, hafter, hw, hcontext', -⟩ := hseen.hushed hm.violations (by simp)
  refine ⟨hushed_reachable, m, m', k, v, w, hm.violations, hv, hstatus, hafter, hw, ?_, ?_, fun he => ?_⟩
  · rw [hcontext]
    rfl
  · rw [hcontext']
    rfl
  · have hsame := congrArg Violation.context he
    dsimp only at hsame
    rw [hcontext, hcontext'] at hsame
    have hproject : Value.str "other" = .str "unknown" := congrArg ViolationContext.project hsame
    simp at hproject

end Sample

end SupplyGate
