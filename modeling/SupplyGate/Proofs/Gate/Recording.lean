import SupplyGate.Proofs.Gate.Course
import SupplyGate.Proofs.Gate.Readiness

/-!
# What filing a course leaves behind

Where the violations of a gate are in memory, filed, and under ids that were given out, filing a
finding never fails. So an evaluation stops just when its course does, with the fault of its course;
it leaves the store that filing the findings of the course leaves, and tells of nothing but of the
violations that were opened again (`evaluateDependency_recorded`). What it reports can be read off any
later store.
-/

namespace SupplyGate

namespace Gate

open MemoryStore (Filing Files Follows recorded)

/-- The violations are in `m`, filed and under ids that were given out, the results are in memory, and
events are not logged. -/
structure Recording (m : MemoryStore Violation) (s : GateState) : Prop where
  unlogged : s.logsEvents = false
  violations : s.violations = .memory m
  given : m.Every (Given (s.ids.count .violation + 1))
  filed : m.Filed
  results : ∃ results, s.evaluations = .memory results

/-- Findings were filed: the store of violations and the events went on by them, and but for ids
nothing else has changed. -/
structure Recorded (now : Timestamp) (vs : List Violation) (m : MemoryStore Violation) (s : GateState)
    (m' : MemoryStore Violation) (events : List Event) (s' : GateState) : Prop where
  filing : Filing now m vs m' events
  state : s' = { s with ids := s'.ids, violations := .memory m', events := s.events ++ events }
  recording : Recording m' s'

section Recording

variable {now : Timestamp} {m m' m'' : MemoryStore Violation} {s s' s'' : GateState}
  {vs ws : List Violation} {events more : List Event}

theorem Recording.recorded_nil (h : Recording m s) : Recorded now [] m s m [] s where
  filing := .nil m
  state := by simp [← h.violations]
  recording := h

theorem Recorded.append (h : Recorded now vs m s m' events s') (h' : Recorded now ws m' s' m'' more s'') :
    Recorded now (vs ++ ws) m s m'' (events ++ more) s'' where
  filing := h.filing.append h'.filing
  state := by
    rw [h'.state, h.state]
    simp
  recording := h'.recording

/-- An id of a kind that is given out changes nothing for the violations. -/
theorem Recording.bump (h : Recording m s) (kind : IdKind) :
    Recording m { s with ids := s.ids.bump kind } where
  unlogged := h.unlogged
  violations := h.violations
  given := by
    intro e he
    have hcount := Ids.count_bump s.ids kind .violation
    refine (h.given e he).mono ?_
    change _ ≤ (s.ids.bump kind).count .violation + 1
    omega
  filed := h.filed
  results := h.results

theorem Recording.publish (h : Recording m s) (e : Event) :
    Recording m { s with events := s.events ++ [e] } :=
  ⟨h.unlogged, h.violations, h.given, h.filed, h.results⟩

/-- Actions, results and events leave the record of violations alone. -/
theorem recording_runLaw (m : MemoryStore Violation) : RunLaw (Recording m) where
  recorded s r t hs ht := by
    obtain ⟨results, hresults⟩ := hs.results
    rw [hresults] at ht
    obtain ⟨results', -, rfl⟩ := Store.put_memory.mp ht
    exact ⟨hs.unlogged, hs.violations, hs.given, hs.filed, results', rfl⟩
  numbered _ kind hs := hs.bump kind
  published _ e hs := hs.publish e
  called _ _ hs := ⟨hs.unlogged, hs.violations, hs.given, hs.filed, hs.results⟩

end Recording

/-! ## Findings -/

section File

variable {now : Timestamp} {m : MemoryStore Violation} {s : GateState} {v : Violation}

/-- Recording a violation stores it, and tells if one on record was opened again. -/
theorem outcome_record {v : Violation} (hkey : ∀ part ∈ v.keyParts, part.isWritable = true)
    {found : Found Violation} {t : MemoryStore Violation} (hl : s.logsEvents = false) (hm : s.violations = .memory m)
    (hg : m.getOrAdd v.key v (Finding.seenAgain now v) = .ok (found, t)) :
    outcome (record now v) s =
      (.ok found.record, { s with violations := .memory t, events := s.events ++ found.reopening }) := by
  have hread : (Shelf.violations.read s).getOrAdd s.now v.key v (Finding.seenAgain now v) =
      .ok (found, .memory t) := by
    rw [show Shelf.violations.read s = .memory m from hm]
    exact Store.getOrAdd_memory.mpr ⟨t, hg, rfl⟩
  have hwrite : Shelf.violations.write s (.memory t) = { s with violations := .memory t } := rfl
  have hwritten : Value.checkAll v.keyParts = .ok () := Value.checkAll_eq_ok.mpr hkey
  unfold record
  rw [outcome_bind, liftM_eq_ofReading, outcome_ofReading, hwritten]
  dsimp only
  rw [outcome_bind, outcome_findOrAdd, hread]
  simp only [hwrite]
  cases hp : found.previous with
  | none => simp [Found.reopening, hp]
  | some old =>
    by_cases hr : old.status = .resolved
    · simp only [hr, if_true, Found.reopening, hp]
      rw [outcome_bind, outcome_publish_unlogged _ (by exact hl)]
      rfl
    · simp [Found.reopening, hp, hr]

/-- A new finding is stored under the next id. -/
theorem file_stores (h : Recording m s) (new : v.New now) :
    ∃ text found t, text ≠ "" ∧
      m.getOrAdd v.key { v with id := .str text } (Finding.seenAgain now v) = .ok (found, t) ∧
      let s' := { s with
        ids := s.ids.bump .violation
        violations := .memory t
        events := s.events ++ found.reopening }
      outcome (file now v) s = (.ok found.record, s') ∧ Recording t s' := by
  have hb := h.bump .violation
  have hgiven : m.Every (Given ((s.ids.bump .violation).count .violation)) := by
    rw [count_bump_self]
    exact h.given
  let text := Ids.textOf .violation ((s.ids.bump .violation).count .violation)
  have hstore : ∀ w : Violation, w.id = .str text → ∃ found t,
      m.getOrAdd w.key w (Finding.seenAgain now w) = .ok (found, t) ∧
        t.Every (Given ((s.ids.bump .violation).count .violation + 1)) :=
    fun _ => getOrAdd_given now hgiven
  obtain ⟨found, t, hg, ht⟩ := hstore { v with id := .str text } rfl
  have hnamed : text ≠ "" := Ids.textOf_ne_empty _ _
  refine ⟨text, found, t, hnamed, hg, ?_, h.unlogged, rfl, ht, (h.filed.files new hnamed hg).filed, h.results⟩
  unfold file
  rw [outcome_bind, show outcome (fresh .violation) s = (.ok (.str text), _) from returns_fresh .violation s]
  exact outcome_record (v := { v with id := .str text }) new.written hb.unlogged hb.violations hg

/-- A new finding is filed. -/
theorem file_outcome (h : Recording m s) (new : v.New now) :
    ∃ w m' events s', outcome (file now v) s = (.ok w, s') ∧ Recorded now [v] m s m' events s' ∧
      Files now m v w m' := by
  obtain ⟨text, found, t, hnamed, hg, ho, hr⟩ := file_stores h new
  refine ⟨found.record, t, found.reopening, _, ho, ⟨?_, rfl, hr⟩, h.filed.files new hnamed hg⟩
  have hone : Filing now m [v] t (found.reopening ++ []) := .cons new hnamed hg (.nil t)
  simpa using hone

/-- Detecting a finding keeps what taking its id and filing it keep. -/
theorem keeps_detect_of_file {I : GateState → Prop} {p : Policy} {r : Rule} {d : Dependency}
    {o : ConditionOutcome} {c : EvaluationContext} (hi : Keeps I (fresh .violation))
    (hf : ∀ v : Violation, v.New now → Keeps I (file now v)) : Keeps I (detect p r d o c now) := by
  rw [detect_eq]
  refine keeps_ofReading.bind fun topic => keeps_ofReading.bind fun _ => ?_
  cases r.metadata.part "tags" with
  | error f => exact Keeps.bind hi fun _ => keeps_throw
  | ok metadata =>
    by_cases hparts : ∀ part ∈ Finding.parts p r d, part.isWritable = true
    · exact hf (Finding.violationOf p r d o c now topic .null metadata) ⟨hparts, rfl, ⟨rfl, rfl, rfl⟩, rfl⟩
    · refine Keeps.bind hi fun id => keeps_pure.bind fun _ => ?_
      unfold record
      rw [Value.checkAll, if_neg (by rw [List.all_eq_true]; exact hparts)]
      exact keeps_throw

end File

/-! ## Courses -/

section Course

variable {now : Timestamp} {m : MemoryStore Violation} {s : GateState}

theorem fileNote_outcome (h : Recording m s) {n : Note} (hn : n.Sound now) (t : Tally) :
    ∃ t' m' events s', outcome (fileNote now t n) s = (.ok t', s') ∧
      Recorded now n.findings m s m' events s' ∧
      ∀ u, Follows now m' u → t' = t.add (recorded now u) n := by
  cases n with
  | found r v =>
    obtain ⟨w, m', events, s', ho, hr, hf⟩ := file_outcome h hn.1
    refine ⟨t.add (fun _ => w) (.found r v), m', events, s', ?_, hr, fun u hu => ?_⟩
    · simp only [fileNote]
      rw [outcome_bind, ho]
      rfl
    · simp only [Tally.add, hf.recorded_eq hu]
  | taken id => exact ⟨_, m, [], s, rfl, h.recorded_nil, fun _ _ => rfl⟩
  | quiet => exact ⟨_, m, [], s, rfl, h.recorded_nil, fun _ _ => rfl⟩
  | excepted e => exact ⟨_, m, [], s, rfl, h.recorded_nil, fun _ _ => rfl⟩

theorem fileNotes_outcome : ∀ {notes : List Note} {m : MemoryStore Violation} {s : GateState} (t : Tally),
    Recording m s → (∀ n ∈ notes, n.Sound now) →
    ∃ t' m' events s', outcome (notes.foldlM (fileNote now) t) s = (.ok t', s') ∧
      Recorded now (notes.flatMap Note.findings) m s m' events s' ∧
      ∀ u, Follows now m' u → t' = notes.foldl (Tally.add (recorded now u)) t
  | [], m, s, t, h, _ => ⟨t, m, [], s, rfl, h.recorded_nil, fun _ _ => rfl⟩
  | n :: notes, m, s, t, h, hn => by
    obtain ⟨hn, hnotes⟩ := List.forall_mem_cons.mp hn
    obtain ⟨t₁, m₁, es, s₁, ho, hr, ht⟩ := fileNote_outcome h hn t
    obtain ⟨t₂, m₂, es', s₂, ho', hr', ht'⟩ := fileNotes_outcome t₁ hr.recording hnotes
    refine ⟨t₂, m₂, es ++ es', s₂, ?_, hr.append hr', fun u hu => ?_⟩
    · rw [List.foldlM_cons, outcome_bind, ho]
      exact ho'
    · have hlater := (hr'.filing.follows hr.recording.filed).trans hu
      rw [ht' u hu, ht u hlater, List.foldl_cons]

/-- Stopping leaves the gate as it is, but for the id of the finding at hand. -/
theorem raise_outcome (h : Recording m s) (e : Stop) :
    ∃ s', outcome (raise e) s = (.error e.fault, s') ∧ Recorded now [] m s m [] s' := by
  unfold raise
  cases e.spent with
  | false => exact ⟨s, rfl, h.recorded_nil⟩
  | true =>
    refine ⟨_, rfl, .nil m, ?_, h.bump .violation⟩
    simp [← h.violations]

theorem fileCourse_outcome (h : Recording m s) {x : Course} (hx : x.Every (Note.Sound now)) :
    ∃ r m' events s', outcome (fileCourse now x .empty) s = (r, s') ∧
      Recorded now x.findings m s m' events s' ∧
      ∀ u, Follows now m' u → r = x.result (recorded now u) := by
  obtain ⟨t, m', events, s', ho, hr, ht⟩ := fileNotes_outcome .empty h hx
  unfold fileCourse Course.result
  simp only [outcome_bind, ho]
  cases x.stop with
  | none => exact ⟨_, m', events, s', rfl, hr, fun u hu => congrArg Except.ok (ht u hu)⟩
  | some e =>
    obtain ⟨s'', ho', hr'⟩ := raise_outcome hr.recording e
    refine ⟨_, m', events, s'', ho', ?_, fun _ _ => rfl⟩
    simpa [Course.findings] using hr.append hr'

section Evaluate

variable (h : Recording m s) {d : Dependency} {policies : List Policy} {c : EvaluationContext}
  (hnow : evaluationTime c s = now)
include h hnow

/-- **An evaluation files its course.** Where violations are recorded in memory, the evaluation of a
dependency ends as its course does; it has filed the findings of its course, and has done nothing
else. What it reports can be read off any later store. -/
theorem evaluateDependency_recorded (d : Dependency) (policies : List Policy) :
    ∃ r m' events s', outcome (evaluateDependency d policies c) s = (r, s') ∧
      Recorded now (dependencyCourse d c now policies).findings m s m' events s' ∧
      ∀ u, Follows now m' u → r =
        ((dependencyCourse d c now policies).result (recorded now u)).map (·.evaluation d now) := by
  obtain ⟨r, m', events, s', ho, hr, hres⟩ := fileCourse_outcome h (dependencyCourse_sound d c now policies)
  rw [evaluateDependency_eq_course, outcome_bind, outcome_get]
  simp only [hnow, outcome_bind, ho]
  refine ⟨r.map (·.evaluation d now), m', events, s', ?_, hr, fun u hu => ?_⟩
  · cases r <;> rfl
  · rw [hres u hu]

theorem evaluateDependency_finished (hstop : (dependencyCourse d c now policies).stop = none) :
    ∃ e m' events s', Returns (evaluateDependency d policies c) s e s' ∧
      Recorded now (dependencyCourse d c now policies).findings m s m' events s' ∧
      ∀ u, Follows now m' u → e =
        ((dependencyCourse d c now policies).tally (recorded now u)).evaluation d now := by
  obtain ⟨r, m', events, s', ho, hr, hres⟩ := evaluateDependency_recorded h hnow d policies
  simp only [Course.result_of_none hstop] at hres
  obtain rfl := hres m' (.refl m')
  exact ⟨_, m', events, s', ho, hr, fun u hu => Except.ok.inj (hres u hu)⟩

theorem evaluateDependency_stopped {f : Stop} (hstop : (dependencyCourse d c now policies).stop = some f) :
    ∃ m' events s', Fails (evaluateDependency d policies c) s f.fault s' ∧
      Recorded now (dependencyCourse d c now policies).findings m s m' events s' := by
  obtain ⟨r, m', events, s', ho, hr, hres⟩ := evaluateDependency_recorded h hnow d policies
  simp only [Course.result_of_some hstop] at hres
  obtain rfl := hres m' (.refl m')
  exact ⟨m', events, s', ho, hr⟩

end Evaluate

end Course

end Gate
end SupplyGate
