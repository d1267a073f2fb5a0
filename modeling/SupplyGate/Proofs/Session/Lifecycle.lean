import SupplyGate.Proofs.Session.Invariants

/-!
# The life of a violation

Triage moves a violation from status to status, and a run opens a resolved one again; both put it back
under its id and tell of the step by an event. So over every run of requests the events of a violation
are a path from its detection to its status, what is said of its resolution goes with its status, and
its record stays, with all that identifies the finding (`violations_live`). Only a move by one who cannot
be written is not told, since it is refused once the violation is stored.
-/

namespace SupplyGate

open Gate

/-! ## Histories -/

/-- The step of the violation with an id that an event tells of. -/
def Event.stepOf (id : String) (e : Event) : Option StatusChange :=
  match e.change with
  | some (.str other, step) => if other = id then some step else none
  | _ => none

/-- The steps of a violation that events tell of, in order. -/
def history (id : String) (events : List Event) : List StatusChange := events.filterMap (Event.stepOf id)

/-- Triage may take a step, and the system may open a resolved violation again. -/
def StatusChange.Allowed (c : StatusChange) : Prop :=
  c.before.mayMove c.after = true ∨ c = ⟨.resolved, .open, "system"⟩

/-- Steps that lead a violation from its detection to a status, each from where the last one led. -/
inductive Lifecycle : List StatusChange → ViolationStatus → Prop where
  | detected : Lifecycle [] .open
  | step {steps : List StatusChange} {c : StatusChange} (before : Lifecycle steps c.before)
      (allowed : c.Allowed) : Lifecycle (steps ++ [c]) c.after

/-- A violation that is suppressed or a false positive stays so. -/
theorem StatusChange.Allowed.before_ne {c : StatusChange} (h : c.Allowed) :
    c.before ≠ .suppressed ∧ c.before ≠ .falsePositive := by
  rcases h with h | rfl
  · constructor <;> intro hb <;> simp [hb, ViolationStatus.mayMove] at h
  · simp

section History

variable {id other : String} {events : List Event} {e : Event}

theorem history_append (events more : List Event) :
    history id (events ++ more) = history id events ++ history id more :=
  List.filterMap_append

theorem history_tell (he : e.change = none) : history id (events ++ [e]) = history id events := by
  rw [history_append]
  simp [history, Event.stepOf, he]

variable {tenantId by_ : Value} {before after : ViolationStatus}

theorem history_step_self : history id (events ++ [.statusChanged tenantId (.str id) before after by_]) =
    history id events ++ [⟨before, after, by_⟩] := by
  rw [history_append]
  simp [history, Event.stepOf, Event.change]

theorem history_step_ne (h : other ≠ id) :
    history id (events ++ [.statusChanged tenantId (.str other) before after by_]) = history id events := by
  rw [history_append]
  simp [history, Event.stepOf, Event.change, h]

theorem Event.change_of_stepOf {c : StatusChange} (h : e.stepOf id = some c) : e.change = some (.str id, c) := by
  unfold stepOf at h
  split at h
  · next other step hc =>
    by_cases ho : other = id
    · obtain rfl : step = c := by simpa [ho] using h
      rw [hc, ho]
    · simp [ho] at h
  · cases h

/-- A violation has no history if no event is about it. -/
theorem history_eq_nil (h : ∀ e ∈ events, ∀ c, e.change ≠ some (.str id, c)) : history id events = [] := by
  refine List.filterMap_eq_nil_iff.mpr fun e he => Option.eq_none_iff_forall_ne_some.mpr fun c hc => ?_
  exact h e he c (Event.change_of_stepOf hc)

end History

/-! ## What stays of a violation -/

/-- What identifies a violation, and when it was first detected, is the same. -/
structure Violation.Same (v w : Violation) : Prop where
  id : w.id = v.id
  tenantId : w.tenantId = v.tenantId
  policyId : w.policyId = v.policyId
  ruleId : w.ruleId = v.ruleId
  dependency : w.dependency = v.dependency
  firstDetected : w.firstDetected = v.firstDetected

namespace Violation.Same

variable {u v w : Violation}

theorem refl (v : Violation) : v.Same v := ⟨rfl, rfl, rfl, rfl, rfl, rfl⟩

theorem trans (h : u.Same v) (h' : v.Same w) : u.Same w :=
  ⟨h'.id.trans h.id, h'.tenantId.trans h.tenantId, h'.policyId.trans h.policyId, h'.ruleId.trans h.ruleId,
    h'.dependency.trans h.dependency, h'.firstDetected.trans h.firstDetected⟩

theorem key (h : v.Same w) : w.key = v.key := by
  unfold Violation.key
  rw [h.tenantId, h.policyId, h.ruleId, h.dependency]

theorem of_triaged (h : v.Triaged w) : v.Same w := by
  rw [h]
  exact ⟨rfl, rfl, rfl, rfl, rfl, rfl⟩

theorem seenAgain (now : Timestamp) (found stored : Violation) :
    stored.Same (Finding.seenAgain now found stored) := by
  unfold Finding.seenAgain
  split <;> exact ⟨rfl, rfl, rfl, rfl, rfl, rfl⟩

end Violation.Same

/-- Triage has decided about the finding itself: the violation is suppressed, or a false positive. -/
def Violation.Dismissed (v : Violation) : Prop := v.status = .suppressed ∨ v.status = .falsePositive

/-- A violation as it may be found later: the same one, with its status where that is final. -/
structure Violation.Later (v w : Violation) : Prop extends v.Same w where
  final : v.status = .suppressed ∨ v.status = .falsePositive → w.status = v.status

namespace Violation.Later

variable {u v w : Violation}

theorem refl (v : Violation) : v.Later v := ⟨.refl v, fun _ => rfl⟩

theorem trans (h : u.Later v) (h' : v.Later w) : u.Later w where
  toSame := h.toSame.trans h'.toSame
  final hu := by
    have hv := h.final hu
    rw [← hv] at hu
    rw [h'.final hu, hv]

/-- A step does not begin at a final status. -/
theorem of_step (h : v.Same w) {changedBy : Value}
    (hallowed : StatusChange.Allowed ⟨v.status, w.status, changedBy⟩) : v.Later w where
  toSame := h
  final hv := by
    obtain ⟨hsuppressed, hfalse⟩ := hallowed.before_ne
    exact (hv.elim hsuppressed hfalse).elim

end Violation.Later

/-- Only a text has the key of the text. -/
theorem Value.eq_str_of_asKey {value : Value} {text : String} (h : value.asKey = .ok (.str text)) :
    value = .str text := by
  obtain ⟨k, hk, hkey⟩ := Reading.bind_eq_ok.mp h
  have hkey : k.key = .str text := Except.ok.inj hkey
  cases value with
  | scalar sc =>
    obtain rfl : sc = k := Except.ok.inj hk
    cases sc with
    | str s => exact congrArg Value.str (Key.str.inj hkey)
    | _ => cases hkey
  | list items => cases hk
  | map entries => cases hk

/-! ## What a state tells of its violations -/

/-- What a state tells of a violation: steps that are allowed, which lead to its status if whoever moved a
violation signed for it; and its status says what it should of its resolution. -/
structure Lived (signed : Prop) (steps : List StatusChange) (v : Violation) : Prop where
  allowed : ∀ c ∈ steps, c.Allowed
  leads : signed → Lifecycle steps v.status
  settled : v.Settled

/-- The state tells the life of each violation on record, and no step of any other violation. The records of
an earlier store are still there, and no events after the past ones tell of those that were dismissed. -/
structure Chronicle (signed : Prop) (past : List Event) (earlier m : MemoryStore Violation) (s : GateState) :
    Prop extends Recording m s where
  distinct : m.Distinct
  lived : ∀ id v, m.lookup (.str id) = some v → Lived signed (history id s.events) v
  told : ∀ e ∈ s.events, ∀ id c, e.change = some (id, c) →
    ∃ text v, id = .str text ∧ m.lookup (.str text) = some v
  stays : ∀ k v, earlier.lookup k = some v → ∃ w, m.lookup k = some w ∧ v.Later w
  quiet : ∀ id v, earlier.lookup (.str id) = some v → v.Dismissed → history id s.events = history id past

section Chronicle

variable {signed : Prop} {past : List Event} {earlier m : MemoryStore Violation} {s : GateState} {id : String}
  {v w : Violation}

/-- Each record stands under its id, which is a text. -/
theorem Gate.Recording.key_eq (h : Recording m s) {k : Key} (hv : m.lookup k = some v) :
    ∃ id, k = .str id ∧ v.id = .str id := by
  obtain ⟨n, -, hid, hk⟩ := h.given.lookup hv
  exact ⟨_, hk, hid⟩

/-- A record may be replaced by one of the same violation. -/
theorem Gate.Recording.stored (h : Recording m s) (hv : m.lookup (.str id) = some v) (hsame : v.Same w) :
    Recording (m.store (.str id) w) { s with violations := .memory (m.store (.str id) w) } where
  unlogged := h.unlogged
  violations := rfl
  given := by
    obtain ⟨n, hn, hid, hk⟩ := h.given.lookup hv
    exact h.given.store ⟨n, hn, hsame.id.trans hid, hk⟩
  filed := h.filed.replaced hv hsame.id hsame.key
  results := h.results

namespace Chronicle

theorem start (now : Timestamp) (ids : Ids) : Chronicle signed [] .empty .empty (.start .memory now ids) where
  unlogged := rfl
  violations := rfl
  given := .empty
  filed := .empty
  results := ⟨.empty, rfl⟩
  distinct := .empty
  lived id v hv := by cases hv
  told e he := by cases he
  stays k v hv := by cases hv
  quiet id v hv := by cases hv

/-- A state goes on as long as its violations and its events stay. -/
theorem frame {s' : GateState} (h : Chronicle signed past earlier m s) (hr : Recording m s')
    (he : s'.events = s.events) : Chronicle signed past earlier m s' where
  toRecording := hr
  distinct := h.distinct
  lived := by rw [he]; exact h.lived
  told := by rw [he]; exact h.told
  stays := h.stays
  quiet := by rw [he]; exact h.quiet

theorem tell (h : Chronicle signed past earlier m s) {e : Event} (he : e.change = none) :
    Chronicle signed past earlier m { s with events := s.events ++ [e] } where
  toRecording := h.publish e
  distinct := h.distinct
  lived id v hv := by
    rw [history_tell he]
    exact h.lived id v hv
  told e' he' id c hc := by
    rcases List.mem_append.mp he' with he' | he'
    · exact h.told e' he' id c hc
    · rw [List.mem_singleton.mp he', he] at hc
      cases hc
  stays := h.stays
  quiet id v hv hdismissed := by
    rw [history_tell he]
    exact h.quiet id v hv hdismissed

theorem stays_store (h : Chronicle signed past earlier m s) (hv : m.lookup (.str id) = some v) (hlater : v.Later w) :
    ∀ k u, earlier.lookup k = some u → ∃ u', (m.store (.str id) w).lookup k = some u' ∧ u.Later u' := by
  intro k u hu
  obtain ⟨u', hu', hs⟩ := h.stays k u hu
  by_cases hk : k = .str id
  · subst hk
    obtain rfl : u' = v := Option.some.inj (hu'.symm.trans hv)
    exact ⟨w, MemoryStore.lookup_store_self .., hs.trans hlater⟩
  · exact ⟨u', (MemoryStore.lookup_store_ne hk w).trans hu', hs⟩

theorem told_store (h : Chronicle signed past earlier m s) : ∀ e ∈ s.events, ∀ value c, e.change = some (value, c) →
    ∃ text u, value = .str text ∧ (m.store (.str id) w).lookup (.str text) = some u := by
  intro e he value c hc
  obtain ⟨text, u, rfl, hu⟩ := h.told e he value c hc
  by_cases hk : text = id
  · subst hk
    exact ⟨text, w, rfl, MemoryStore.lookup_store_self ..⟩
  · have hne : Key.str text ≠ .str id := fun he => hk (Key.str.inj he)
    exact ⟨text, u, rfl, (MemoryStore.lookup_store_ne hne w).trans hu⟩

/-- A violation may be put back with its status, and with a later one where nobody signs for it. -/
theorem stored (h : Chronicle signed past earlier m s) (hv : m.lookup (.str id) = some v) (hlater : v.Later w)
    (hstatus : signed → w.status = v.status) (hsettled : w.Settled) :
    Chronicle signed past earlier (m.store (.str id) w)
      { s with violations := .memory (m.store (.str id) w) } where
  toRecording := h.toRecording.stored hv hlater.toSame
  distinct := h.distinct.store _ w
  lived other u hu := by
    by_cases hk : other = id
    · subst hk
      rw [MemoryStore.lookup_store_self, Option.some.injEq] at hu
      subst hu
      have hlived := h.lived other v hv
      exact ⟨hlived.allowed, fun hsigned => hstatus hsigned ▸ hlived.leads hsigned, hsettled⟩
    · have hne : Key.str other ≠ .str id := fun he => hk (Key.str.inj he)
      rw [MemoryStore.lookup_store_ne hne] at hu
      exact h.lived other u hu
  told := h.told_store
  stays := h.stays_store hv hlater
  quiet := h.quiet

/-- A violation may be put back with a status that a step leads to, if the step is told. -/
theorem stepped (h : Chronicle signed past earlier m s) (hv : m.lookup (.str id) = some v) (hsame : v.Same w)
    {tenantId changedBy : Value} (hallowed : StatusChange.Allowed ⟨v.status, w.status, changedBy⟩)
    (hsettled : w.Settled) :
    Chronicle signed past earlier (m.store (.str id) w) { s with
      violations := .memory (m.store (.str id) w)
      events := s.events ++ [.statusChanged tenantId (.str id) v.status w.status changedBy] } where
  toRecording := (h.toRecording.stored hv hsame).publish _
  distinct := h.distinct.store _ w
  lived other u hu := by
    by_cases hk : other = id
    · subst hk
      rw [MemoryStore.lookup_store_self, Option.some.injEq] at hu
      subst hu
      rw [history_step_self]
      have hlived := h.lived other v hv
      refine ⟨fun c hc => ?_, fun hsigned => .step (hlived.leads hsigned) hallowed, hsettled⟩
      rcases List.mem_append.mp hc with hc | hc
      · exact hlived.allowed c hc
      · rwa [List.mem_singleton.mp hc]
    · have hne : Key.str other ≠ .str id := fun he => hk (Key.str.inj he)
      rw [MemoryStore.lookup_store_ne hne] at hu
      rw [history_step_ne (Ne.symm hk)]
      exact h.lived other u hu
  told e he value c hc := by
    rcases List.mem_append.mp he with he | he
    · exact h.told_store e he value c hc
    · rw [List.mem_singleton.mp he] at hc
      cases hc
      exact ⟨id, w, rfl, MemoryStore.lookup_store_self ..⟩
  stays := h.stays_store hv (.of_step hsame hallowed)
  quiet other u hu hdismissed := by
    by_cases hk : other = id
    · subst hk
      -- The violation is still dismissed, and no step begins there.
      obtain ⟨u', hu', hlater⟩ := h.stays _ u hu
      obtain rfl : u' = v := Option.some.inj (hu'.symm.trans hv)
      obtain ⟨hsuppressed, hfalse⟩ := hallowed.before_ne
      unfold Violation.Dismissed at hdismissed
      rw [← hlater.final hdismissed] at hdismissed
      exact (hdismissed.elim hsuppressed hfalse).elim
    · rw [history_step_ne (Ne.symm hk)]
      exact h.quiet other u hu hdismissed

/-- A finding that is added begins its life. -/
theorem added (h : Chronicle signed past earlier m s) {now : Timestamp} (new : v.New now) {text : String}
    {found : Found Violation} {t : MemoryStore Violation} {k : Key}
    (ha : MemoryStore.Added m v.key { v with id := .str text } found t k) {s' : GateState}
    (hr : Recording t s') (he : s'.events = s.events) : Chronicle signed past earlier t s' := by
  obtain rfl : k = .str text := (Except.ok.inj ha.keyed).symm
  have hlookup : ∀ l u, m.lookup l = some u → t.lookup l = some u := by
    intro l u hu
    have hne : l ≠ .str text := by
      rintro rfl
      rw [ha.free] at hu
      cases hu
    rw [ha.store_eq]
    exact (MemoryStore.lookup_store_ne hne _).trans hu
  refine ⟨hr, ?_, fun other u hu => ?_, fun e hmem value c hc => ?_, fun l u hu => ?_, he ▸ h.quiet⟩
  · rw [ha.store_eq]
    exact h.distinct.store _ _
  · rw [he]
    by_cases hk : other = text
    · subst hk
      -- Every event is about a violation on record, and there was none under the new id.
      have hfresh : history other s.events = [] := history_eq_nil fun e hmem c hc => by
        obtain ⟨_, u, heq, hu⟩ := h.told e hmem _ c hc
        cases heq
        rw [ha.free] at hu
        cases hu
      obtain rfl : { v with id := .str other } = u := by
        rw [ha.store_eq] at hu
        exact Option.some.inj ((MemoryStore.lookup_store_self ..).symm.trans hu)
      rw [hfresh]
      exact ⟨by simp, fun _ => new.status ▸ .detected, fun _ => new.unresolved, by simp [new.status]⟩
    · have hne : Key.str other ≠ .str text := fun he => hk (Key.str.inj he)
      rw [ha.store_eq] at hu
      exact h.lived other u ((MemoryStore.lookup_store_ne hne _).symm.trans hu)
  · rw [he] at hmem
    obtain ⟨other, u, rfl, hu⟩ := h.told e hmem value c hc
    exact ⟨other, u, rfl, hlookup _ u hu⟩
  · obtain ⟨w, hw, hs⟩ := h.stays l u hu
    exact ⟨w, hlookup l w hw, hs⟩

/-- A finding that refreshes a violation leaves its status, or opens it again and tells of it. -/
theorem refreshed (h : Chronicle signed past earlier m s) {now : Timestamp} {found : Found Violation}
    {t : MemoryStore Violation} {k : Key} {old : Violation}
    (hf : MemoryStore.Refreshed m v.key (Finding.seenAgain now v) found t k old) :
    Chronicle signed past earlier t { s with violations := .memory t, events := s.events ++ found.reopening } := by
  obtain ⟨hold, -, rfl⟩ := h.filed.refreshed hf
  obtain ⟨id, rfl, hid⟩ := h.key_eq hold
  have hsame := Violation.Same.seenAgain now v old
  have hsettled := (h.lived id old hold).settled
  rw [hf.found_eq]
  by_cases hr : old.status = .resolved
  · have hopen : (Finding.seenAgain now v old).status = .open := by simp [Finding.seenAgain, hr]
    have hreopening : Found.reopening ⟨Finding.seenAgain now v old, some old⟩ =
        [.statusChanged (Finding.seenAgain now v old).tenantId (.str id) old.status
          (Finding.seenAgain now v old).status "system"] := by
      simp only [Found.reopening, hr, if_true, hopen, hsame.id, hid]
    rw [hreopening]
    refine h.stepped hold hsame (.inr ?_) ⟨fun _ => ?_, ?_⟩
    · rw [hr, hopen]
    · simp [Finding.seenAgain, hr]
    · simp [hopen]
  · have hstays : Finding.seenAgain now v old = { old with
        lastSeen := now, message := v.message, details := v.details, context := v.context } := by
      simp [Finding.seenAgain, hr]
    have hreopening : Found.reopening ⟨Finding.seenAgain now v old, some old⟩ = [] := by
      simp [Found.reopening, hr]
    rw [hreopening, List.append_nil]
    have hstatus : (Finding.seenAgain now v old).status = old.status := by rw [hstays]
    refine h.stored hold ⟨hsame, fun _ => hstatus⟩ (fun _ => hstatus) ?_
    · rw [hstays]
      exact ⟨hsettled.unresolved, hsettled.resolved⟩

/-- Filing a finding goes on with the chronicle. -/
theorem keeps_file {now : Timestamp} (new : v.New now) :
    Keeps (fun s => ∃ m, Chronicle signed past earlier m s) (file now v) := by
  intro s hs
  obtain ⟨m, h⟩ := hs
  refine ⟨?_, fun _ _ => trivial⟩
  obtain ⟨text, found, t, -, hg, ho, hr⟩ := file_stores h.toRecording new
  have hbump := h.frame (h.bump .violation) rfl
  rw [ho]
  refine ⟨t, ?_⟩
  rcases MemoryStore.getOrAdd_ok hg with ⟨k, old, hf⟩ | ⟨k, ha⟩
  · exact hbump.refreshed hf
  · refine h.added new ha hr ?_
    simp [ha.found_eq, Found.reopening]

/-- A violation that is looked up and put back after an allowed move goes on with the chronicle. -/
theorem moved (h : Chronicle signed past earlier m s) {violationId : Value} {t : MemoryStore Violation}
    (hv : m.get violationId = .ok (some v)) (hsame : v.Same w) (hmove : v.status.mayMove w.status = true)
    (hsettled : w.Settled) (ht : m.put w = .ok t) (tenantId actor : Value) :
    Chronicle signed past earlier t { s with
      violations := .memory t
      events := s.events ++ [.statusChanged tenantId violationId v.status w.status actor] } := by
  obtain ⟨k, hkey, hk⟩ := MemoryStore.get_ok.mp hv
  obtain ⟨id, rfl, hid⟩ := h.key_eq hk.symm
  obtain rfl := Value.eq_str_of_asKey hkey
  obtain ⟨l, hl, rfl⟩ := MemoryStore.put_ok.mp ht
  have hident : MemoryStore.keyOf w = .ok (.str id) := by
    change w.id.asKey = _
    rw [hsame.id, hid]
    rfl
  obtain rfl : .str id = l := Except.ok.inj (hident.symm.trans hl)
  exact h.stepped hk.symm hsame (.inl hmove) hsettled

/-- Triage goes on with the chronicle. A move by one who cannot be written is refused once the violation is
stored, and no event tells of it. -/
theorem keepsMoves {actor : Value} (hactor : signed → actor.isWritable = true) :
    KeepsMoves (fun s => ∃ m, Chronicle signed past earlier m s) actor := by
  refine fun violationId target change htriage => keeps_move_of fun s v t hs hv hmove ht => ?_
  obtain ⟨m, h⟩ := hs
  rw [h.violations] at hv ht
  obtain ⟨t', ht', rfl⟩ := Store.put_memory.mp ht
  obtain ⟨k, hkey, hk⟩ := MemoryStore.get_ok.mp hv
  obtain ⟨id, rfl, -⟩ := h.key_eq hk.symm
  obtain rfl := Value.eq_str_of_asKey hkey
  have hstatus : (change { v with status := target }).status = target := htriage.status _
  have hsame : v.Same (change { v with status := target }) := .of_triaged (htriage.triaged v target)
  have hsettled := htriage.settled v (h.lived id v hk.symm).settled hmove
  rw [outcome_bind, logValues, outcome_ofReading]
  by_cases hwritten : actor.isWritable = true
  · have hlog : Value.checkAll [Value.str id, actor] = .ok () := by
      rw [Value.checkAll_eq_ok]
      simp [hwritten]
    have hmoved := h.moved hv hsame (by rw [hstatus]; exact hmove) hsettled ht' v.tenantId actor
    rw [hstatus] at hmoved
    rw [hlog]
    dsimp only
    rw [outcome_publish_unlogged _ (by exact h.unlogged)]
    exact ⟨t', hmoved⟩
  · obtain ⟨l, hl, rfl⟩ := MemoryStore.put_back h.filed.keyed hv hsame.id ht'
    obtain ⟨_, rfl, -⟩ := h.key_eq hl
    have hstep : StatusChange.Allowed ⟨v.status, (change { v with status := target }).status, actor⟩ :=
      .inl (by rw [hstatus]; exact hmove)
    have hstored := h.stored hl (.of_step hsame hstep) (fun hsigned => absurd (hactor hsigned) hwritten) hsettled
    cases hlog : Value.checkAll [Value.str id, actor] with
    | error f => exact ⟨_, hstored⟩
    | ok _ =>
      rw [Value.checkAll_eq_ok] at hlog
      exact absurd (hlog actor (by simp)) hwritten

end Chronicle

/-- Every request goes on with the chronicle of a service. -/
theorem chronicle_conduct (signed : Prop) (past : List Event) (earlier : MemoryStore Violation) :
    Conduct (fun s => ∃ m, Chronicle signed past earlier m s) (fun _ => True) (fun _ => True) where
  recorded s r t hs ht := by
    obtain ⟨m, h⟩ := hs
    exact ⟨m, h.frame ((recording_runLaw m).recorded s r t h.toRecording ht) rfl⟩
  numbered s kind hs := by
    obtain ⟨m, h⟩ := hs
    exact ⟨m, h.frame (h.bump kind) rfl⟩
  told s e he hs := by
    obtain ⟨m, h⟩ := hs
    exact ⟨m, h.tell he⟩
  called s call hs := by
    obtain ⟨m, h⟩ := hs
    exact ⟨m, h.frame ((recording_runLaw m).called s call h.toRecording) rfl⟩
  checked _ _ := trivial
  alike _ _ _ _ := trivial
  stored _ _ := trivial
  found _ _ _ _ _ := trivial
  listed _ _ _ _ _ _ _ := trivial
  every _ _ _ _ _ _ := trivial
  added _ _ _ hs _ _ := by
    obtain ⟨m, h⟩ := hs
    exact ⟨m, h.frame ⟨h.unlogged, h.violations, h.given, h.filed, h.results⟩ rfl⟩
  put _ _ _ hs _ _ := by
    obtain ⟨m, h⟩ := hs
    exact ⟨m, h.frame ⟨h.unlogged, h.violations, h.given, h.filed, h.results⟩ rfl⟩
  deleted _ _ _ _ hs _ := by
    obtain ⟨m, h⟩ := hs
    exact ⟨m, h.frame ⟨h.unlogged, h.violations, h.given, h.filed, h.results⟩ rfl⟩
  detected _ _ _ _ _ _ _ _ := by
    refine keeps_detect_of_file (fun s hs => ⟨?_, fun _ _ => trivial⟩) fun _ new => Chronicle.keeps_file new
    obtain ⟨m, h⟩ := hs
    exact ⟨m, h.frame (h.bump .violation) rfl⟩
  strategy _ _ _ hs _ := by
    obtain ⟨m, h⟩ := hs
    exact ⟨m, h.frame ⟨h.unlogged, h.violations, h.given, h.filed, h.results⟩ rfl⟩
  clocked _ _ hs := by
    obtain ⟨m, h⟩ := hs
    exact ⟨m, h.frame ⟨h.unlogged, h.violations, h.given, h.filed, h.results⟩ rfl⟩

theorem Chronicle.keeps_request {r : Request} (hr : signed → r.Signed) :
    Keeps (fun s => ∃ m, Chronicle signed past earlier m s) r.run :=
  (chronicle_conduct signed past earlier).keeps_request r
    (fun actor ha => Chronicle.keepsMoves fun hsigned => hr hsigned actor ha) fun _ _ _ _ _ _ => trivial

/-- A state is the first of its own chronicle. -/
theorem Chronicle.anew (h : Chronicle signed past earlier m s) : Chronicle signed s.events m m s :=
  ⟨h.toRecording, h.distinct, h.lived, h.told, fun _ v hv => ⟨v, hv, .refl v⟩, fun _ _ _ _ => rfl⟩

theorem Reachable.chronicle {allowed : Request → Prop} (h : Reachable allowed s) :
    ∃ m, Chronicle (∀ r, allowed r → r.Signed) [] .empty m s :=
  h.keeps (fun now ids => ⟨.empty, .start now ids⟩) fun r hr => Chronicle.keeps_request fun hsigned => hsigned r hr

/-- **The life of a violation.** Wherever requests lead, the steps that events tell of a violation on
record are a path from its detection to its status, if whoever moved a violation can be written, as every
text can; they are steps that triage may take or by which the system opens a resolved violation again, and
none of them leaves a suppressed violation or a false positive. What the record says of its resolution goes
with its status. And wherever further requests lead, the record is still there, with all that identifies it,
and with its status if that is final. -/
theorem violations_live {allowed : Request → Prop} (h : Reachable allowed s) :
    ∃ m, s.violations = .memory m ∧
      (∀ k v, (k, v) ∈ m.records → ∃ id, k = .str id ∧ v.id = .str id ∧
        ((∀ r, allowed r → r.Signed) → Lifecycle (history id s.events) v.status) ∧
        (∀ c ∈ history id s.events, c.Allowed) ∧
        (∀ c ∈ history id s.events, c.before ≠ .suppressed ∧ c.before ≠ .falsePositive) ∧
        (v.status = .open ∨ v.status = .acknowledged →
          v.resolution = .null ∧ v.resolvedBy = .null ∧ v.resolvedAt = none) ∧
        (v.status = .resolved ∨ v.status = .falsePositive → v.resolvedAt.isSome)) ∧
      (∀ e ∈ s.events, ∀ id c, e.change = some (id, c) → ∃ k v, (k, v) ∈ m.records ∧ v.id = id) ∧
      ∀ t, Leads allowed s t → ∃ m', t.violations = .memory m' ∧
        ∀ k v, (k, v) ∈ m.records → ∃ w, (k, w) ∈ m'.records ∧ v.Later w := by
  obtain ⟨m, hm⟩ := h.chronicle
  refine ⟨m, hm.violations, fun k v hv => ?_, fun e he id c hc => ?_, fun t ht => ?_⟩
  · have hlookup := hm.distinct.lookup_of_mem hv
    obtain ⟨id, rfl, hid⟩ := hm.key_eq hlookup
    obtain ⟨hallowed, hlife, hsettled⟩ := hm.lived id v hlookup
    exact ⟨id, rfl, hid, hlife, hallowed, fun c hc => (hallowed c hc).before_ne, hsettled.unresolved,
      hsettled.resolved⟩
  · obtain ⟨text, v, rfl, hv⟩ := hm.told e he id c hc
    obtain ⟨text', heq, hid⟩ := hm.key_eq hv
    cases heq
    exact ⟨_, v, MemoryStore.mem_of_lookup hv, hid⟩
  · obtain ⟨m', hm'⟩ := ht.keeps ⟨m, hm.anew⟩ fun r hr => Chronicle.keeps_request fun hsigned => hsigned r hr
    refine ⟨m', hm'.violations, fun k v hv => ?_⟩
    obtain ⟨w, hw, hlater⟩ := hm'.stays k v (hm.distinct.lookup_of_mem hv)
    exact ⟨w, MemoryStore.mem_of_lookup hw, hlater⟩

end Chronicle

section Sample

open Sample

/-- The evaluation of the sample dependency against a policy that warns of it. -/
def warned : Request := .evaluateDependency (dependency "lib") [policy "t" "p" [rule "r" (absent "x")] []] .empty

/-- The service after the dependency was evaluated, its violation resolved, and it was evaluated again. -/
def relapsed : GateState :=
  (outcome warned.run (outcome (Request.resolve "violation_000000000001" "fixed" "u").run
    (outcome warned.run gate).2).2).2

theorem relapsed_reachable : Reachable Request.Signed relapsed := by
  have hwarned : warned.Signed := fun _ h => nomatch h
  refine .request (.request (.request (.start moment {}) hwarned) fun actor h => ?_) hwarned
  cases h
  rfl

theorem relapsed_history : history "violation_000000000001" relapsed.events =
    [⟨.open, .resolved, "u"⟩, ⟨.resolved, .open, "system"⟩] := by
  unfold relapsed warned Request.run
  simp only [outcome_discard]
  rw [evaluateDependency_eq, Policy.active_singleton rfl]
  rfl

theorem violations_live_relapsed :
    Reachable Request.Signed relapsed ∧ ∃ m k v, relapsed.violations = .memory m ∧ (k, v) ∈ m.records ∧
      v.id = "violation_000000000001" ∧
      Lifecycle [⟨.open, .resolved, "u"⟩, ⟨.resolved, .open, "system"⟩] v.status := by
  obtain ⟨m, hm, hlived, htold, -⟩ := violations_live relapsed_reachable
  have hstep : ⟨.open, .resolved, "u"⟩ ∈ history "violation_000000000001" relapsed.events := by
    rw [relapsed_history]
    exact List.mem_cons_self
  obtain ⟨e, he, hstep⟩ := List.mem_filterMap.mp hstep
  obtain ⟨k, v, hv, hid⟩ := htold e he _ _ (Event.change_of_stepOf hstep)
  obtain ⟨id, -, hid', hlife, -⟩ := hlived k v hv
  obtain rfl : "violation_000000000001" = id := by simpa using hid.symm.trans hid'
  rw [relapsed_history] at hlife
  exact ⟨relapsed_reachable, m, k, v, hm, hv, hid, hlife fun _ hr => hr⟩

end Sample

end SupplyGate
