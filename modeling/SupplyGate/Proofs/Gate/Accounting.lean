import Mathlib.Data.List.Dedup
import Mathlib.Data.List.Induction
import Mathlib.Data.List.Perm.Basic
import SupplyGate.Proofs.Gate.Runs

/-!
# Accounting for a run

Every dependency of a run has one turn, and a turn is evaluated, skipped or cancelled. The counters of
a result come from three places: the list of evaluations, the map of errors by dependency, and a
count. The map forgets: a dependency that stands in the batch twice and fails twice is one entry of
it, although each failure is told by an event of its own. So the counters of a result balance just
when no two of the dependencies that failed are the same one (`evaluateAll_balanced_iff`).
-/

namespace SupplyGate.Gate

/-! ## Events of a turn -/

/-- Since `before`, no event told of a dependency that could not be evaluated. -/
def QuietSince (before : List Event) (s : GateState) : Prop :=
  ∃ es, s.events = before ++ es ∧ es.filterMap Event.failedName = []

theorem QuietSince.refl (s : GateState) : QuietSince s.events s := ⟨[], by simp, rfl⟩

theorem QuietSince.of_eq {before : List Event} {s s' : GateState} (h : QuietSince before s)
    (he : s'.events = s.events) : QuietSince before s' := by
  obtain ⟨es, hs, hq⟩ := h
  exact ⟨es, he.trans hs, hq⟩

section Quiet

variable {before : List Event}

theorem quiet_publish (e : Event) (he : e.failedName = none) : Keeps (QuietSince before) (publish e) := by
  intro s hs
  refine ⟨?_, fun _ _ => trivial⟩
  rw [outcome_publish]
  split
  · exact hs
  · obtain ⟨es, hes, hq⟩ := hs
    exact ⟨es ++ [e], by simp [hes], by simp [hq, he]⟩

theorem quiet_noteCall (call : CollaboratorCall) : Keeps (QuietSince before) (noteCall call) :=
  .modify fun _ hs => hs.of_eq rfl

theorem quiet_fresh : Keeps (QuietSince before) (fresh .violation) :=
  fun _ hs => ⟨hs.of_eq rfl, fun _ _ => trivial⟩

theorem quiet_findOrAdd (key : String) (v : Violation) (change : Violation → Violation) :
    Keeps (QuietSince before) (findOrAdd .violations key v change) :=
  yields_findOrAdd _ fun _ _ _ hs _ => ⟨hs.of_eq rfl, trivial⟩

theorem quiet_evaluateAndAct {others : Collaborators} {policies : List Policy} {c : EvaluationContext}
    {d : Dependency} : Keeps (QuietSince before) (evaluateAndAct others policies c d) := by
  refine Keeps.bind (keeps_evaluateDependency fun p _ r _ outcome now => ?_) fun e => ?_
  · exact keeps_detect quiet_fresh (fun _ _ => quiet_publish _ rfl) fun v => quiet_findOrAdd _ _ _
  · refine Keeps.bind (Keeps.mapM fun v _ => ?_) fun _ => keeps_pure
    exact keeps_execute (fun e he => quiet_publish e he.failedName) quiet_noteCall

end Quiet

/-! ## Turns -/

section Turns

variable {others : Collaborators} {evaluationId tenantId : Value} {policies : List Policy}
  {c : EvaluationContext} {cancel : Cancellation} {before : Nat} {s s' : GateState}

theorem evaluateAndAct_status {d : Dependency} {t : Turn}
    (h : Returns (evaluateAndAct others policies c d) s t s') :
    ∃ e executed, t = .evaluated e executed ∧ e.status ≠ .skipped := by
  obtain ⟨e, s₁, he, h⟩ := returns_bind.mp h
  obtain ⟨executed, s₂, -, h⟩ := returns_bind.mp h
  obtain ⟨rfl, -⟩ := returns_pure.mp h
  obtain ⟨-, data, order, -, -, hR⟩ := evaluateDependency_reports (I := fun _ => True)
    (R := fun _ _ => True) (fun p _ r _ outcome => keeps_true _) trivial he
  refine ⟨_, _, rfl, ?_⟩
  change e.status ≠ .skipped
  rw [hR.status, EvaluationStatus.ofFindings]
  split_ifs <;> simp

/-- The names of the dependencies of which a turn tells that they could not be evaluated. -/
def failedNames : Dependency × Turn → List Value
  | (d, .skipped _) => [d.name]
  | _ => []

/-- A turn of a dependency is about it, tells by one event if it failed, and any evaluation that it
gives has a verdict. -/
structure TurnTold (s : GateState) (d : Dependency) (t : Dependency × Turn) (s' : GateState) : Prop where
  about : t.1 = d
  told : ∃ es, s'.events = s.events ++ es ∧ es.filterMap Event.failedName = failedNames t
  verdict : ∀ e executed, t.2 = .evaluated e executed → e.status ≠ .skipped

theorem turn_told {d : Dependency} {n : Nat} {t : Dependency × Turn}
    (h : Returns (turn others evaluationId tenantId policies c cancel before (d, n)) s t s') :
    TurnTold s d t s' := by
  rw [turn_eq] at h
  obtain ⟨_, _, hg, h₁⟩ := returns_bind.mp h
  obtain ⟨rfl, rfl⟩ := returns_get.mp hg
  split at h₁
  · obtain ⟨rfl, rfl⟩ := returns_pure.mp h₁
    exact ⟨rfl, ⟨[], by simp [failedNames]⟩, by simp⟩
  · obtain ⟨ending, _, hend, h₂⟩ := returns_bind.mp h₁
    obtain ⟨rfl, rfl⟩ := returns_pure.mp h₂
    rcases returns_tryCatch.mp hend with hok | ⟨f, s₂, hf, hskip⟩
    · obtain ⟨hq, -⟩ := quiet_evaluateAndAct.returns (QuietSince.refl _) hok
      obtain ⟨e, executed, rfl, hv⟩ := evaluateAndAct_status hok
      refine ⟨rfl, hq, ?_⟩
      rintro _ _ ⟨⟩
      exact hv
    · obtain ⟨es, hes, hq⟩ := quiet_evaluateAndAct.fails (QuietSince.refl _) hf
      obtain ⟨_, _, hlog, h₃⟩ := returns_bind.mp hskip
      obtain ⟨-, rfl⟩ := returns_ofReading.mp hlog
      obtain ⟨_, s₃, hpub, h₄⟩ := returns_bind.mp h₃
      obtain ⟨rfl, rfl⟩ := returns_pure.mp h₄
      refine ⟨rfl, ⟨es ++ [.dependencyFailed evaluationId tenantId d.name f.message], ?_, ?_⟩, by simp⟩
      · simp [returns_publish hpub, hes]
      · simp [hq, failedNames, Event.failedName]

theorem turns_told : ∀ {l : List (Dependency × Nat)} {turns : List (Dependency × Turn)} {s s' : GateState},
    Returns (l.mapM (turn others evaluationId tenantId policies c cancel before)) s turns s' →
      turns.map (·.1) = l.map (·.1) ∧
      (∃ es, s'.events = s.events ++ es ∧ es.filterMap Event.failedName = turns.flatMap failedNames) ∧
      ∀ t ∈ turns, ∀ e executed, t.2 = .evaluated e executed → e.status ≠ .skipped
  | [], turns, s, s', h => by
    obtain ⟨rfl, rfl⟩ := returns_mapM_nil.mp h
    exact ⟨rfl, ⟨[], by simp⟩, by simp⟩
  | (d, n) :: l, turns, s, s', h => by
    obtain ⟨t, s₁, rest, ht, hrest, rfl⟩ := returns_mapM_cons.mp h
    obtain ⟨habout, ⟨es, hes, hf⟩, hv⟩ := turn_told ht
    obtain ⟨hmap, ⟨es', hes', hf'⟩, hv'⟩ := turns_told hrest
    refine ⟨by simp [habout, hmap], ⟨es ++ es', ?_, ?_⟩, ?_⟩
    · rw [hes', hes, List.append_assoc]
    · rw [List.filterMap_append, hf, hf', List.flatMap_cons]
    · intro t' ht'
      rcases List.mem_cons.mp ht' with rfl | ht'
      · exact hv
      · exact hv' t' ht'

end Turns

/-! ## Counting turns -/

/-- The dependencies of a run that were skipped, in order. -/
def skippedOf (turns : List (Dependency × Turn)) : List Dependency :=
  turns.filterMap fun
    | (d, .skipped _) => some d
    | _ => none

theorem failedNames_eq (turns : List (Dependency × Turn)) :
    turns.flatMap failedNames = (skippedOf turns).map (·.name) := by
  induction turns with
  | nil => rfl
  | cons t turns ih =>
    obtain ⟨d, t⟩ := t
    cases t <;> simpa [failedNames, skippedOf, List.flatMap_cons] using ih

theorem skippedOf_sublist (turns : List (Dependency × Turn)) :
    (skippedOf turns).Sublist (turns.map (·.1)) := by
  induction turns with
  | nil => exact .slnil
  | cons t turns ih =>
    obtain ⟨d, t⟩ := t
    cases t with
    | skipped error => exact ih.cons_cons d
    | evaluated e executed => exact ih.cons d
    | cancelled => exact ih.cons d

/-- Every turn is evaluated, skipped or cancelled. -/
theorem length_turns (turns : List (Dependency × Turn)) :
    turns.length = (evaluationsOf turns).length + (skippedOf turns).length + cancelledOf turns := by
  induction turns with
  | nil => rfl
  | cons t turns ih =>
    obtain ⟨d, t⟩ := t
    cases t <;> simp [evaluationsOf, skippedOf, cancelledOf] at ih ⊢ <;> omega

/-- Evaluations with a verdict are counted by the four verdicts. -/
theorem length_eq_counts {es : List Evaluation} (h : ∀ e ∈ es, e.status ≠ .skipped) :
    es.length = es.countP (·.status == .compliant) + es.countP (·.status == .warning) +
      es.countP (·.status == .violation) + es.countP (·.status == .exception) := by
  induction es with
  | nil => rfl
  | cons e es ih =>
    have he := h e List.mem_cons_self
    have := ih fun e' he' => h e' (List.mem_cons_of_mem _ he')
    cases hs : e.status <;> simp_all <;> omega

/-! ### Errors by dependency -/

theorem insert_keys (k : String) (v : Value) :
    ∀ {entries : List (Scalar × Value)} {ks : List String}, entries.map (·.1) = ks.map .str →
      (Value.insert (.str k) v entries).map (·.1) = (if k ∈ ks then ks else ks ++ [k]).map .str
  | [], ks, h => by
    obtain rfl : ks = [] := by simpa using h.symm
    simp [Value.insert]
  | (l, w) :: entries, [], h => by simp at h
  | (l, w) :: entries, k' :: ks, h => by
    obtain ⟨rfl, hrest⟩ : l = .str k' ∧ entries.map (·.1) = ks.map .str := by simpa using h
    have ih := insert_keys k v hrest
    by_cases hk : k' = k
    · simp [Value.insert, Scalar.same_str, hk, hrest]
    · have hk' : ¬ k = k' := fun he => hk he.symm
      by_cases hm : k ∈ ks
      · simpa [Value.insert, Scalar.same_str, hk, hk', hm] using ih
      · simpa [Value.insert, Scalar.same_str, hk, hk', hm] using ih

theorem errorsOf_snoc (turns : List (Dependency × Turn)) (d : Dependency) (t : Turn) :
    errorsOf (turns ++ [(d, t)]) =
      match t with
      | .skipped error => Value.insert (.str d.ident) (.str error) (errorsOf turns)
      | _ => errorsOf turns := by
  cases t <;> simp [errorsOf]

theorem skippedOf_append (turns more : List (Dependency × Turn)) :
    skippedOf (turns ++ more) = skippedOf turns ++ skippedOf more := by
  simp [skippedOf]

/-- The errors of a run are kept once for each dependency that was skipped. -/
theorem errorsOf_keys (turns : List (Dependency × Turn)) :
    ∃ ks : List String, (errorsOf turns).map (·.1) = ks.map .str ∧ ks.Nodup ∧
      ∀ k, k ∈ ks ↔ k ∈ (skippedOf turns).map (·.ident) := by
  induction turns using List.reverseRecOn with
  | nil => exact ⟨[], rfl, .nil, by simp [skippedOf]⟩
  | append_singleton turns t ih =>
    obtain ⟨ks, hks, hn, hmem⟩ := ih
    obtain ⟨d, t⟩ := t
    rw [errorsOf_snoc, skippedOf_append]
    cases t with
    | evaluated e executed => exact ⟨ks, hks, hn, by simpa [skippedOf] using hmem⟩
    | cancelled => exact ⟨ks, hks, hn, by simpa [skippedOf] using hmem⟩
    | skipped error =>
      refine ⟨_, insert_keys d.ident (.str error) hks, ?_, fun k => ?_⟩
      · split
        · exact hn
        · next hm =>
          refine List.nodup_append.mpr ⟨hn, by simp, fun a ha b hb hab => hm ?_⟩
          rwa [← List.mem_singleton.mp hb, ← hab]
      · rw [List.map_append, List.mem_append, ← hmem]
        by_cases hm : d.ident ∈ ks
        · have hk : k = d.ident → k ∈ ks := fun he => he ▸ hm
          simpa [hm, skippedOf] using hk
        · simp [hm, skippedOf]

theorem length_errorsOf (turns : List (Dependency × Turn)) :
    (errorsOf turns).length = ((skippedOf turns).map (·.ident)).dedup.length := by
  obtain ⟨ks, hks, hn, hmem⟩ := errorsOf_keys turns
  have hperm : ks.Perm ((skippedOf turns).map (·.ident)).dedup := by
    refine (List.perm_ext_iff_of_nodup hn (List.nodup_dedup _)).mpr fun k => ?_
    rw [hmem, List.mem_dedup]
  have hlen := congrArg List.length hks
  simp only [List.length_map] at hlen
  rw [hlen, hperm.length_eq]

/-! ## Runs -/

section Runs

variable {others : Collaborators} {ds : List Dependency} {tenantId : Value} {policies : List Policy}
  {c : EvaluationContext} {cancel : Cancellation} {s s' : GateState} {r : EnforcementResult}

/-- What the counters of a result are, given the turns of its run. -/
structure Counts (turns : List (Dependency × Turn)) (r : EnforcementResult) : Prop where
  total : r.total = .int turns.length
  evaluations : r.evaluations = evaluationsOf turns
  evaluated : r.evaluated = .int (evaluationsOf turns).length
  skipped : r.skipped = .int (errorsOf turns).length
  cancelled : r.cancelled = .int (cancelledOf turns)

theorem runTurns_returns {evaluationId : Value} {before : Nat} {start : Timestamp}
    (h : Returns (runTurns others evaluationId tenantId policies c cancel before start ds) s r s') :
    ∃ active turns s₁,
      Returns (ds.zipIdx.mapM (turn others evaluationId tenantId active c cancel before)) s turns s₁ ∧
      s'.events = s₁.events ∧ Counts turns r := by
  obtain ⟨active, _, hr, h₁⟩ := returns_bind.mp h
  obtain ⟨-, rfl⟩ := returns_ofReading.mp hr
  obtain ⟨turns, s₁, htaken, h₂⟩ := returns_bind.mp h₁
  have ht := returns_takeAll.mp htaken
  obtain ⟨finish, _, hc, h₃⟩ := returns_bind.mp h₂
  obtain ⟨-, rfl⟩ := returns_clock.mp hc
  obtain ⟨summary, _, hr, h₄⟩ := returns_bind.mp h₃
  obtain ⟨-, rfl⟩ := returns_ofReading.mp hr
  obtain ⟨_, s₂, hk, h₅⟩ := returns_bind.mp h₄
  obtain ⟨rfl, rfl⟩ := returns_pure.mp h₅
  have hlen : turns.length = ds.length := by
    have := congrArg List.length (turns_told ht).1
    simpa using this
  refine ⟨active, turns, _, ht, ?_, ⟨by rw [hlen], rfl, rfl, rfl, rfl⟩⟩
  obtain ⟨t, -, rfl⟩ := (returns_keep _).mp hk
  rfl

/-- A run that returns has a turn for each dependency, and counts the turns. -/
theorem evaluateAll_turns (h : Returns (evaluateAll others ds tenantId policies c cancel) s r s') :
    ∃ turns es, turns.map (·.1) = ds ∧ s'.events = s.events ++ es ∧
      es.filterMap Event.failedName = turns.flatMap failedNames ∧
      (∀ t ∈ turns, ∀ e executed, t.2 = .evaluated e executed → e.status ≠ .skipped) ∧
      Counts turns r := by
  rw [evaluateAll_eq] at h
  obtain ⟨evaluationId, s₁, hf, h₁⟩ := returns_bind.mp h
  have hs₁ : s₁.events = s.events := by
    rw [← (Prod.mk.inj hf).2]
  obtain ⟨_, _, hg, h₂⟩ := returns_bind.mp h₁
  obtain ⟨rfl, rfl⟩ := returns_get.mp hg
  obtain ⟨_, s₂, hstart, h₃⟩ := returns_bind.mp h₂
  obtain ⟨_, s₃, hrun, h₄⟩ := returns_bind.mp h₃
  obtain ⟨_, s₄, hend, h₅⟩ := returns_bind.mp h₄
  obtain ⟨rfl, rfl⟩ := returns_pure.mp h₅
  rcases returns_tryCatch.mp hrun with hok | ⟨f, _, -, hfail⟩
  · obtain ⟨active, turns, s₅, ht, hs₅, hcounts⟩ := runTurns_returns hok
    obtain ⟨hmap, ⟨es, hes, hfailed⟩, hverdict⟩ := turns_told ht
    refine ⟨turns, .evaluationStarted evaluationId tenantId ds.length :: es ++
      [.evaluationCompleted evaluationId tenantId r.summary.violationsDetected
        r.summary.blockedDependencies r.skipped], ?_, ?_, ?_, hverdict, hcounts⟩
    · rw [hmap, List.zipIdx_map_fst]
    · simp [returns_publish hend, hs₅, hes, returns_publish hstart, hs₁]
    · simpa [Event.failedName, List.filterMap_cons] using hfailed
  · obtain ⟨_, _, -, hfail⟩ := returns_bind.mp hfail
    exact absurd hfail returns_throw

/-- The counters of the result of a run over some dependencies balance: each dependency is counted as
evaluated, skipped or cancelled, the evaluated ones are the evaluations, each with one of the four
verdicts, and the skipped ones are as many as the published events that tell of a failure. -/
def Balanced (ds : List Dependency) (published : List Event) (r : EnforcementResult) : Prop :=
  ∃ skipped cancelled : Nat,
    r.total = .int ds.length ∧ r.evaluated = .int r.evaluations.length ∧
    r.skipped = .int skipped ∧ r.cancelled = .int cancelled ∧
    ds.length = r.evaluations.length + skipped + cancelled ∧
    r.evaluations.length =
      r.evaluations.countP (·.status == .compliant) + r.evaluations.countP (·.status == .warning) +
        r.evaluations.countP (·.status == .violation) + r.evaluations.countP (·.status == .exception) ∧
    skipped = published.countP (·.name == "dependencyEvaluationError")

theorem countP_failures (es : List Event) :
    es.countP (·.name == "dependencyEvaluationError") = (es.filterMap Event.failedName).length := by
  rw [List.length_filterMap_eq_countP]
  exact List.countP_congr fun e _ => by rw [Event.name_eq_failure]

theorem length_dedup_eq_iff {α : Type} [DecidableEq α] {l : List α} :
    l.dedup.length = l.length ↔ l.Nodup := by
  constructor
  · intro h
    exact List.dedup_eq_self.mp ((List.dedup_sublist l).eq_of_length h)
  · intro h
    rw [h.dedup]

/-- **The accounts of a run balance unless a dependency fails twice.** A run that returns tells of
each failed dependency by one event, in order, and gives each dependency that it evaluates one of
the four verdicts. All its counters are right but one: it counts as skipped how many different
dependencies failed. So its accounts balance just when no dependency failed twice. -/
theorem evaluateAll_balanced_iff
    (h : Returns (evaluateAll others ds tenantId policies c cancel) s r s') :
    ∃ (published : List Event) (failed : List Dependency) (cancelled : Nat),
      s'.events = s.events ++ published ∧
      failed.Sublist ds ∧
      published.filterMap Event.failedName = failed.map (·.name) ∧
      r.total = .int ds.length ∧
      r.evaluated = .int r.evaluations.length ∧
      r.evaluations.length =
        r.evaluations.countP (·.status == .compliant) + r.evaluations.countP (·.status == .warning) +
          r.evaluations.countP (·.status == .violation) + r.evaluations.countP (·.status == .exception) ∧
      r.cancelled = .int cancelled ∧
      ds.length = r.evaluations.length + failed.length + cancelled ∧
      r.skipped = .int (failed.map (·.ident)).dedup.length ∧
      (Balanced ds published r ↔ (failed.map (·.ident)).Nodup) := by
  obtain ⟨turns, es, hmap, hes, hfailed, hverdict, hc⟩ := evaluateAll_turns h
  rw [failedNames_eq] at hfailed
  have hlen : ds.length = r.evaluations.length + (skippedOf turns).length + cancelledOf turns := by
    rw [← hmap, List.length_map, hc.evaluations]
    exact length_turns turns
  have hskipped := hc.skipped
  rw [length_errorsOf] at hskipped
  have hevents : es.countP (·.name == "dependencyEvaluationError") = (skippedOf turns).length := by
    rw [countP_failures, hfailed, List.length_map]
  have htotal : r.total = .int ds.length := by
    rw [hc.total, ← hmap, List.length_map]
  have hevaluated : r.evaluated = .int r.evaluations.length := by
    rw [hc.evaluated, hc.evaluations]
  have hverdicts : ∀ e ∈ r.evaluations, e.status ≠ .skipped := by
    intro e he
    rw [hc.evaluations] at he
    obtain ⟨t, ht, executed, hte⟩ := mem_evaluationsOf.mp he
    exact hverdict t ht e executed hte
  refine ⟨es, skippedOf turns, cancelledOf turns, hes, ?_, hfailed, htotal, hevaluated, length_eq_counts hverdicts,
    hc.cancelled, hlen, hskipped, ?_⟩
  · rw [← hmap]
    exact skippedOf_sublist turns
  · rw [← length_dedup_eq_iff, List.length_map]
    constructor
    · rintro ⟨skipped, cancelled, -, -, hs, -, -, -, hn⟩
      rw [hskipped] at hs
      obtain hs : ((skippedOf turns).map (·.ident)).dedup.length = skipped := by simpa using hs
      omega
    · intro hn
      refine ⟨(skippedOf turns).length, cancelledOf turns, htotal, hevaluated, ?_, hc.cancelled, hlen,
        length_eq_counts hverdicts, hevents.symm⟩
      rw [hskipped, hn]

end Runs

section Sample

open Sample

/-- A dependency that cannot be evaluated: its last update is no timestamp. -/
def undated : Dependency := { dependency "lib" with lastUpdate := "soon" }

/-- A run over some dependencies, against no policies, that is never cancelled. -/
def plainRun (ds : List Dependency) : Gate EnforcementResult :=
  evaluateAll .none ds "t" [] .empty fun _ _ => false

theorem evaluateAll_balanced_iff_single :
    ∃ (r : EnforcementResult) (s' : GateState) (published : List Event) (failed : List Dependency),
      Returns (plainRun [undated]) gate r s' ∧ s'.events = published ∧ failed.Sublist [undated] ∧
      r.total = .int 1 ∧ r.evaluated = .int r.evaluations.length ∧
      r.skipped = .int (failed.map (·.ident)).dedup.length ∧
      (Balanced [undated] published r ↔ (failed.map (·.ident)).Nodup) := by
  obtain ⟨r, s', h⟩ : ∃ r s', Returns (plainRun [undated]) gate r s' := by
    unfold plainRun evaluateAll runTurns
    simp only [List.filter_nil, Policy.active_nil]
    exact ⟨_, _, rfl⟩
  obtain ⟨published, failed, -, hes, hsub, -, htotal, hevaluated, -, -, -, hskipped, hiff⟩ := evaluateAll_balanced_iff h
  exact ⟨r, s', published, failed, h, hes, hsub, htotal, hevaluated, hskipped, hiff⟩

/-- A dependency that stands twice in a batch and fails twice is told by two events, and counted as
one that was skipped. -/
theorem evaluateAll_unbalanced :
    ∃ r s', Returns (plainRun [undated, undated]) gate r s' ∧
      ¬ Balanced [undated, undated] s'.events r := by
  obtain ⟨r, s', h, hskipped, hevents⟩ : ∃ r s', Returns (plainRun [undated, undated]) gate r s' ∧
      r.skipped = .int 1 ∧ s'.events.countP (·.name == "dependencyEvaluationError") = 2 := by
    unfold plainRun evaluateAll runTurns
    simp only [List.filter_nil, Policy.active_nil]
    exact ⟨_, _, rfl, rfl, rfl⟩
  refine ⟨r, s', h, ?_⟩
  rintro ⟨skipped, cancelled, -, -, hs, -, -, -, hn⟩
  rw [hskipped] at hs
  obtain hs : (1 : Int) = skipped := by simpa using hs
  omega

end Sample

end SupplyGate.Gate
