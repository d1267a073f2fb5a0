import SupplyGate.Proofs.Gate.Accounting
import SupplyGate.Proofs.Gate.Completion
import SupplyGate.Proofs.Gate.Filing
import SupplyGate.Proofs.Gate.Readiness

/-!
# Runs that skip nothing

In an orderly gate, a run against policies that were accepted fails only if the policies cannot be
put in order, or the name of a dependency that it skips cannot be written. A turn of it is skipped just when the
dependency is not ready, since the rest of the turn cannot fail. So however a run is cancelled, it returns and skips nothing, just when the policies can be
put in order and each dependency of the batch is ready (`evaluateAll_unskipped_iff`).
-/

namespace SupplyGate.Gate

/-- The violations are filed, countable and under ids that were given out, and the results are in
memory. -/
structure Orderly (s : GateState) : Prop where
  numbered : Numbered s
  countable : FiledWith (fun m => m.Every fun _ v => v.Countable) s
  results : ∃ m, s.evaluations = .memory m

theorem Orderly.start (now : Timestamp) (ids : Ids) : Orderly (.start .memory now ids) where
  numbered := .start now ids
  countable := ⟨.empty, rfl, .empty, .empty⟩
  results := ⟨.empty, rfl⟩

/-- A gate stays orderly as long as its log, its ids, its violations and its results stay. -/
theorem Orderly.frame {s t : GateState} (h : Orderly s) (hl : t.logsEvents = s.logsEvents)
    (hi : t.ids = s.ids) (hv : t.violations = s.violations) (he : t.evaluations = s.evaluations) : Orderly t := by
  obtain ⟨⟨hunlogged, hgiven⟩, hcountable, hresults⟩ := h
  refine ⟨⟨hl.trans hunlogged, ?_⟩, ?_, ?_⟩
  · rw [hi, hv]
    exact hgiven
  · obtain ⟨m, hm, hfiled⟩ := hcountable
    exact ⟨m, hv.trans hm, hfiled⟩
  · rw [he]
    exact hresults

theorem orderly_runLaw : RunLaw Orderly where
  recorded s r t hs ht := by
    obtain ⟨m, hm⟩ := hs.results
    rw [hm] at ht
    obtain ⟨m', -, rfl⟩ := Store.put_memory.mp ht
    exact ⟨numbered_runLaw.recorded s r _ hs.numbered (hm ▸ ht), hs.countable, m', rfl⟩
  numbered _ kind hs := ⟨hs.numbered.bump kind, hs.countable, hs.results⟩
  published s e hs := ⟨numbered_runLaw.published s e hs.numbered, hs.countable, hs.results⟩
  called s call hs := ⟨numbered_runLaw.called s call hs.numbered, hs.countable, hs.results⟩

/-! ## Findings -/

section Detect

variable {p : Policy} {r : Rule} {d : Dependency} {o : ConditionOutcome} {c : EvaluationContext}
  {now n : Timestamp}

/-- Storing a countable finding among countable ones gives out a countable one. -/
theorem countable_getOrAdd {m t : MemoryStore Violation} {key : String} {v : Violation}
    {found : Found Violation} (hm : m.Every fun _ v => v.Countable) (hv : v.Countable)
    (hg : m.getOrAdd key v (Finding.seenAgain now v) = .ok (found, t)) :
    t.Every (fun _ v => v.Countable) ∧ found.record.Countable := by
  rcases MemoryStore.getOrAdd_ok hg with ⟨k, old, hr⟩ | ⟨k, ha⟩
  · have hold : old.Countable := hm.lookup (MemoryStore.byIndex_eq_some.mp hr.here).2.2
    obtain ⟨l, -, rfl⟩ := hr.store_eq
    rw [hr.found_eq]
    exact ⟨hm.store (hold.seenAgain now v), hold.seenAgain now v⟩
  · rw [ha.found_eq, ha.store_eq]
    exact ⟨hm.store (k := k) hv, hv⟩

theorem countable_detect (hp : p.Accepted) (hr : r ∈ p.rules) :
    Yields (FiledWith fun m => m.Every fun _ v => v.Countable) (detect p r d o c now) (·.Countable) :=
  yields_detect_stored fun m t v found _ hm hv _ hseverity hg => by
    refine countable_getOrAdd hm ⟨?_, ?_⟩ hg
    · rw [hseverity]
      exact (hp.checked r hr).severity
    · rw [show v.policyId = p.id from congrArg Identity.policyId hv]
      exact hp.id

theorem orderly_detect (hp : p.Accepted) (hr : r ∈ p.rules) :
    Yields (fun s => Orderly s ∧ s.now = n) (detect p r d o c now) (·.Countable) := by
  have hcount : Yields (FiledWith fun m => m.Every fun _ v => v.Countable) (detect p r d o c now) (·.Countable) :=
    countable_detect hp hr
  have hrest : Keeps (fun s => (∃ m, s.evaluations = .memory m) ∧ s.now = n) (detect p r d o c now) :=
    keeps_detect_of (fun _ _ => id) (fun _ _ => id) fun _ _ => id
  intro s hs
  have hcount := hcount s hs.1.countable
  have hrest := (hrest s ⟨hs.1.results, hs.2⟩).1
  exact ⟨⟨⟨(numbered_detect s hs.1.numbered).1, hcount.1, hrest.1⟩, hrest.2⟩, hcount.2⟩

/-- In an orderly gate every event can be told. -/
theorem orderly_completing : Completing fun s => Orderly s ∧ s.now = n where
  toRunLaw := orderly_runLaw.timed n
  results _ hs := hs.1.results
  tells _ e hs := ⟨(), _, outcome_publish_unlogged e hs.1.numbered.unlogged⟩
  detects _ _ _ _ _ _ hp hr := orderly_detect hp hr

end Detect

/-! ## Turns -/

section Turns

variable {others : Collaborators} {evaluationId tenantId : Value} {policies : List Policy}
  {c : EvaluationContext} {cancel : Cancellation} {before : Nat} {d : Dependency} {s : GateState} {n : Timestamp}

/-- A dependency is evaluated and acted on just when it is ready. -/
theorem succeeds_evaluateAndAct_iff (hs : Numbered s) :
    Succeeds (evaluateAndAct others policies c d) s ↔ Ready d policies c (evaluationTime c s) := by
  rw [← succeeds_evaluateDependency_iff hs]
  refine (succeeds_bind_iff (C := True) (keeps_true _) trivial fun e t _ _ => ?_).trans (and_iff_left trivial)
  refine iff_true_intro (succeeds_bind_pure.mpr ?_)
  exact succeeds_mapM (I := fun _ => True) trivial (fun _ _ => keeps_true _) fun _ _ _ _ => succeeds_execute

/-- How the turn of a dependency ends: evaluated if it is ready, with findings that can be counted,
and skipped only if it is not. -/
structure Settled (cancel : Cancellation) (policies : List Policy) (c : EvaluationContext) (now : Timestamp)
    (d : Dependency) (t : Turn) : Prop where
  evaluated : ∀ e executed, t = .evaluated e executed →
    Ready d policies c now ∧ Reported (fun _ v => v.Countable) d policies c e
  skipped : ∀ error, t = .skipped error → ¬ Ready d policies c now
  cancelled : t = .cancelled → ∃ k events, cancel k events = true

theorem Settled.of_cancelled {k : Nat} {events : List Event} (h : cancel k events = true) :
    Settled cancel policies c n d .cancelled :=
  ⟨by simp, by simp, fun _ => ⟨k, events, h⟩⟩

theorem Settled.of_skipped {error : String} (h : ¬ Ready d policies c n) :
    Settled cancel policies c n d (.skipped error) :=
  ⟨by simp, fun _ _ => h, by simp⟩

variable (hp : ∀ p ∈ policies, p.Accepted)
include hp

theorem settled_evaluateAndAct :
    Yields (fun s => Orderly s ∧ s.now = n) (evaluateAndAct others policies c d)
      (Settled cancel policies c (c.now.getD n) d) := by
  have hreported : Yields (fun s => Orderly s ∧ s.now = n) (evaluateAndAct others policies c d) fun t =>
      ∀ e executed, t = .evaluated e executed → Reported (fun _ v => v.Countable) d policies c e :=
    (orderly_runLaw.timed n).yields_evaluateAndAct fun p hmem r hr _ _ => orderly_detect (hp p hmem) hr
  intro s hs
  refine ⟨(hreported s hs).1, fun t ht => ?_⟩
  have hr : Returns (evaluateAndAct others policies c d) s t (outcome (evaluateAndAct others policies c d) s).2 :=
    Prod.ext ht rfl
  have hready := (succeeds_evaluateAndAct_iff hs.1.numbered).mp ⟨t, _, hr⟩
  rw [evaluationTime, hs.2] at hready
  obtain ⟨e, executed, rfl, -⟩ := evaluateAndAct_status hr
  refine ⟨?_, by simp, by simp⟩
  rintro _ _ ⟨⟩
  exact ⟨hready, (hreported s hs).2 _ ht _ _ rfl⟩

theorem settled_turn (k : Nat) :
    Yields (fun s => Orderly s ∧ s.now = n)
      (turn others evaluationId tenantId policies c cancel before (d, k)) fun t =>
        Settled cancel policies c (c.now.getD n) d t.2 := by
  have L := orderly_runLaw.timed n
  rw [turn_eq]
  refine Yields.bind keeps_get fun s _ => ?_
  split
  · next hc => exact .pure (.of_cancelled hc)
  · refine Yields.bind ((settled_evaluateAndAct hp).tryCatch_fails fun f s t hs hf => ?_) fun t ht => .pure ht
    refine Yields.bind keeps_ofReading fun _ _ => ?_
    refine Yields.bind (L.keeps_publish _) fun _ _ => .pure (.of_skipped fun hready => ?_)
    rw [← hs.2] at hready
    obtain ⟨_, _, hr⟩ := (succeeds_evaluateAndAct_iff hs.1.numbered).mpr hready
    have hboth := hf.symm.trans hr
    cases hboth

end Turns

theorem skippedOf_eq_nil_iff {turns : List (Dependency × Turn)} :
    skippedOf turns = [] ↔ ∀ t ∈ turns, ∀ error, t.2 ≠ .skipped error := by
  unfold skippedOf
  rw [List.filterMap_eq_nil_iff]
  refine forall₂_congr fun t _ => ?_
  obtain ⟨d, t⟩ := t
  cases t <;> simp

section Settled

variable {cancel : Cancellation} {policies : List Policy} {c : EvaluationContext} {now : Timestamp}
  {ds : List Dependency} {turns : List (Dependency × Turn)}
  (h : List.Forall₂ (fun dn t => Settled cancel policies c now dn.1 t.2) ds.zipIdx turns)
include h

/-- Where all dependencies are ready, none is skipped. -/
theorem skippedOf_of_ready (hready : ∀ d ∈ ds, Ready d policies c now) : skippedOf turns = [] := by
  refine skippedOf_eq_nil_iff.mpr fun t ht error hskipped => ?_
  obtain ⟨dn, hdn, hsettled⟩ := exists_of_forall₂ h t ht
  exact hsettled.skipped error hskipped (hready dn.1 (List.fst_mem_of_mem_zipIdx hdn))

/-- Where no turn was skipped or cancelled, all dependencies were ready. -/
theorem ready_of_skippedOf (hcancel : ∀ k events, cancel k events = false) (hnone : skippedOf turns = []) :
    ∀ d ∈ ds, Ready d policies c now := by
  intro d hd
  obtain ⟨k, hk, rfl⟩ := List.mem_iff_getElem.mp hd
  have hmem : (ds[k], k) ∈ ds.zipIdx := List.mk_mem_zipIdx_iff_getElem?.mpr (List.getElem?_eq_getElem hk)
  obtain ⟨t, ht, hsettled⟩ := exists_of_forall₂ h.flip _ hmem
  have hskipped := skippedOf_eq_nil_iff.mp hnone t ht
  cases he : t.2 with
  | evaluated e executed => exact (hsettled.evaluated e executed he).1
  | skipped error => exact absurd he (hskipped error)
  | cancelled =>
    obtain ⟨l, events, hl⟩ := hsettled.cancelled he
    rw [hcancel] at hl
    cases hl

end Settled

/-! ## Runs -/

section Runs

variable {others : Collaborators} {ds : List Dependency} {evaluationId tenantId : Value}
  {policies active : List Policy} {c : EvaluationContext} {cancel : Cancellation} {before : Nat}
  {start n : Timestamp} {s : GateState}

/-- What the number of skipped dependencies of a run says about them. -/
structure Unskipped (cancel : Cancellation) (active : List Policy) (c : EvaluationContext) (now : Timestamp)
    (ds : List Dependency) (r : EnforcementResult) : Prop where
  skipped : (∀ d ∈ ds, Ready d active c now) → r.skipped = .int 0
  ready : (∀ k events, cancel k events = false) → r.skipped = .int 0 → ∀ d ∈ ds, Ready d active c now

theorem length_errorsOf_eq_zero {turns : List (Dependency × Turn)} :
    (errorsOf turns).length = 0 ↔ skippedOf turns = [] := by
  rw [length_errorsOf, List.length_eq_zero_iff, List.dedup_eq_nil, List.map_eq_nil_iff]

variable (hp : ∀ p ∈ policies, p.Accepted)
include hp

theorem unskipped_runTurns :
    Yields (fun s => Orderly s ∧ s.now = n)
      (runTurns others evaluationId tenantId policies c cancel before start ds) fun r =>
        ∃ active, Policy.active (policies.filter (·.tenantId.same tenantId)) = .ok active ∧
          Unskipped cancel active c (c.now.getD n) ds r := by
  have L := orderly_runLaw.timed n
  refine Yields.bind (.ofReading fun _ => id) fun active hactive => ?_
  refine Yields.bind (.takeAll fun dn _ => settled_turn (accepted_of_active hp hactive) dn.2) fun turns hturns => ?_
  refine Yields.bind keeps_clock fun finish _ => Yields.bind keeps_ofReading fun summary _ => ?_
  refine Yields.bind (L.keeps_keepResult _) fun _ _ => .pure ⟨active, hactive, fun hready => ?_, fun hcancel hskipped => ?_⟩
  · have hnone := length_errorsOf_eq_zero.mpr (skippedOf_of_ready hturns hready)
    simp [hnone]
  · refine ready_of_skippedOf hturns hcancel (length_errorsOf_eq_zero.mp ?_)
    simpa using hskipped

/-- A run returns where the policies of the tenant can be put in order, and the names of the dependencies can be
written. -/
theorem succeeds_evaluateAll (hactive : Policy.active (policies.filter (·.tenantId.same tenantId)) = .ok active)
    (hs : Orderly s) (hnames : ∀ d ∈ ds, d.name.isWritable = true) :
    Succeeds (evaluateAll others ds tenantId policies c cancel) s :=
  orderly_completing.succeeds_evaluateAll hp hactive hnames ⟨hs, rfl⟩

theorem unskipped_evaluateAll :
    Yields (fun s => Orderly s ∧ s.now = n) (evaluateAll others ds tenantId policies c cancel) fun r =>
      ∃ active, Policy.active (policies.filter (·.tenantId.same tenantId)) = .ok active ∧
        Unskipped cancel active c (c.now.getD n) ds r :=
  (orderly_runLaw.timed n).yields_evaluateAll_of fun _ _ _ => unskipped_runTurns hp

/-- A run that is not cancelled returns, and skips a dependency that is not ready. -/
theorem evaluateAll_skips (hactive : Policy.active (policies.filter (·.tenantId.same tenantId)) = .ok active)
    (hs : Orderly s) (hnames : ∀ d ∈ ds, d.name.isWritable = true) {d : Dependency} (hd : d ∈ ds)
    (hready : ¬ Ready d active c (evaluationTime c s)) :
    ∃ r s', Returns (evaluateAll others ds tenantId policies c fun _ _ => false) s r s' ∧ r.skipped ≠ .int 0 := by
  obtain ⟨r, s', hr⟩ : Succeeds (evaluateAll others ds tenantId policies c fun _ _ => false) s :=
    succeeds_evaluateAll hp hactive hs hnames
  obtain ⟨-, active', hactive', hunskipped⟩ := (unskipped_evaluateAll hp).returns ⟨hs, rfl⟩ hr
  obtain rfl : active = active' := Except.ok.inj (hactive.symm.trans hactive')
  exact ⟨r, s', hr, fun hskipped => hready (hunskipped.ready (fun _ _ => rfl) hskipped d hd)⟩

/-- **When a run goes through without skipping.** Against accepted policies in an orderly gate, a run
returns and skips nothing, however it is cancelled, just when the policies of the tenant can be put in
order and each dependency is ready. -/
theorem evaluateAll_unskipped_iff (hs : Orderly s) :
    (∀ cancel, ∃ r s', Returns (evaluateAll others ds tenantId policies c cancel) s r s' ∧ r.skipped = .int 0) ↔
      ∃ active, Policy.active (policies.filter (·.tenantId.same tenantId)) = .ok active ∧
        ∀ d ∈ ds, Ready d active c (evaluationTime c s) := by
  constructor
  · intro h
    obtain ⟨r, s', hr, hskipped⟩ := h fun _ _ => false
    obtain ⟨-, active, hactive, hunskipped⟩ := (unskipped_evaluateAll hp).returns ⟨hs, rfl⟩ hr
    exact ⟨active, hactive, hunskipped.ready (fun _ _ => rfl) hskipped⟩
  · rintro ⟨active, hactive, hready⟩ cancel
    obtain ⟨r, s', hr⟩ : Succeeds (evaluateAll others ds tenantId policies c cancel) s :=
      succeeds_evaluateAll hp hactive hs fun d hd => (hready d hd).name
    obtain ⟨-, active', hactive', hunskipped⟩ := (unskipped_evaluateAll hp).returns ⟨hs, rfl⟩ hr
    obtain rfl : active = active' := Except.ok.inj (hactive.symm.trans hactive')
    exact ⟨r, s', hr, hunskipped.skipped hready⟩

end Runs

end SupplyGate.Gate
