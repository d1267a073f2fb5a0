import SupplyGate.Proofs.Gate.Completion
import SupplyGate.Proofs.Gate.Endings
import SupplyGate.Proofs.Gate.Settling
import SupplyGate.Proofs.Gate.Tasks

/-!
# How a run is framed

A run takes an id, tells that it begins, takes its turns and keeps its result, and tells how it has ended. Each stretch
of a turn takes ids, files findings, tells of them and calls collaborators (`Worked`): turns begin and end no run, and
keep no result. So whoever goes on when, the events until a run has ended are its first one, those of turns, and one that
tells how it has ended; and under its id, which was not given out before, the store of results gains what the run
returns, or it stays as it is (`Joint.evaluateAll_framed`). The turns that a failed run leaves go on as turns do.
-/

namespace SupplyGate

/-! ## What the log can write -/

/-- The payload has a written form. -/
def Payload.Writable (p : Payload) : Prop := ∃ text, p.toJson = .ok text

/-- The log can write the event. -/
def Event.Writable (e : Event) : Prop := e.payload.Writable

namespace Payload

@[simp] theorem writable_count (n : Int) : (ofCount (.int n)).Writable := ⟨_, rfl⟩

end Payload

namespace Gate

/-- What the turns of a run change: ids are taken, events published that begin and end no run, collaborators called and
findings filed. -/
structure Worked (s t : GateState) : Prop where
  eq : t = { s with ids := t.ids, events := t.events, calls := t.calls, violations := t.violations }
  told : ∃ told, t.events = s.events ++ told ∧ ∀ e ∈ told, e.framedRun = none
  given : s.ids.count .evaluation ≤ t.ids.count .evaluation

namespace Worked

variable {s t : GateState}

theorem refl (s : GateState) : Worked s s := ⟨rfl, ⟨[], by simp, by simp⟩, Nat.le_refl _⟩

theorem logsEvents (h : Worked s t) : t.logsEvents = s.logsEvents := by rw [h.eq]

theorem evaluations (h : Worked s t) : t.evaluations = s.evaluations := by rw [h.eq]

theorem tell (h : Worked s t) {e : Event} (he : e.framedRun = none) : Worked s { t with events := t.events ++ [e] } where
  eq := by rw [h.eq]
  told := by
    obtain ⟨told, htold, hnone⟩ := h.told
    refine ⟨told ++ [e], by simp [htold], fun e' he' => ?_⟩
    rcases List.mem_append.mp he' with he' | he'
    · exact hnone e' he'
    · rw [List.mem_singleton.mp he']
      exact he
  given := h.given

theorem trans {u : GateState} (h : Worked s t) (h' : Worked t u) : Worked s u where
  eq := by rw [h'.eq, h.eq]
  told := by
    obtain ⟨told, htold, hnone⟩ := h.told
    obtain ⟨more, hmore, hnone'⟩ := h'.told
    refine ⟨told ++ more, by rw [hmore, htold, List.append_assoc], fun e he => ?_⟩
    rcases List.mem_append.mp he with he | he
    · exact hnone e he
    · exact hnone' e he
  given := Nat.le_trans h.given h'.given

theorem working (s : GateState) : Working (Worked s) where
  numbered t kind h := by
    have hcount := Ids.count_bump t.ids kind .evaluation
    have hgiven := h.given
    refine ⟨by rw [h.eq], h.told, ?_⟩
    change _ ≤ (t.ids.bump kind).count .evaluation
    omega
  mentioned _ _ _ he h := h.tell he
  called _ _ h := ⟨by rw [h.eq], h.told, h.given⟩

theorem stretches : Task.Stretches Worked where
  refl := refl
  working := working
  detects s _ _ _ _ _ _ := (working s).keeps_detect (fun _ _ => keeps_publish_of fun _ h => h.tell rfl)
    fun _ _ h => ⟨by rw [h.eq], h.told, h.given⟩

end Worked

/-! ## Results -/

/-- A run under an id has come to its result: the turns were taken, and the result was put in the store. -/
structure KeptResult (s : GateState) (id : Value) (r : EnforcementResult) (t : GateState) : Prop where
  named : r.evaluationId = id
  totalled : Totalled r
  kept : ∃ u, Worked s u ∧ u.evaluations.put r = .ok t.evaluations ∧ t = { u with evaluations := t.evaluations }

section Results

variable {s : GateState} {id tenantId : Value} {start : Timestamp} {ds : List Dependency}

theorem settles_keepResult {r : EnforcementResult} (hid : r.evaluationId = id) (hr : Totalled r) :
    Settles (Worked s) (do keep .evaluations r; return r) (KeptResult s id) (Worked s) := by
  intro u hu
  constructor
  · intro r' t h
    obtain ⟨_, t', hkeep, h⟩ := returns_bind.mp h
    obtain ⟨rfl, rfl⟩ := returns_pure.mp h
    obtain ⟨results, hput, rfl⟩ := (returns_keep _).mp hkeep
    exact ⟨hid, hr, u, hu, hput, rfl⟩
  · intro f t h
    rcases fails_bind.mp h with h | ⟨_, _, _, h⟩
    · rw [Fails, outcome_keep] at h
      split at h
      · cases h
      · cases h
        exact hu
    · cases h

/-- Turns that were taken lead to a result that is kept, or to a failure that leaves the results alone. -/
theorem settles_conclude {active : List Policy} {turns : List (Dependency × Turn)} :
    Settles (Worked s) (conclude id tenantId active start ds turns) (KeptResult s id) (Worked s) := by
  have hfailed : ∀ t, Worked s t → Worked s t := fun _ h => h
  refine .after keeps_clock hfailed fun finish _ => ?_
  refine .after (.ofReading fun _ h => h) hfailed fun summary hsummary => ?_
  obtain ⟨hviolations, hblocked⟩ := summarize_totals hsummary
  exact settles_keepResult rfl ⟨hviolations, hblocked, _, rfl⟩

end Results

/-! ## Frames -/

section Frames

variable {s : GateState} {tenantId : Value}

/-- How a run under an id ends: it returns a result, which its last event tells of and the store of results gains; or it
fails, which its last event tells of, and the store of results stays as it is. -/
inductive Ending (id tenantId : Value) (before after : Store EnforcementResult) :
    Reading EnforcementResult → Event → Prop where
  | completed {r : EnforcementResult} (named : r.evaluationId = id) (gained : Store.Gains r before after) :
    Ending id tenantId before after (.ok r)
      (.evaluationCompleted id tenantId r.summary.violationsDetected r.summary.blockedDependencies r.skipped)
  | failed {f : Fault} (unchanged : after = before) :
    Ending id tenantId before after (.error f) (.evaluationFailed id tenantId f.message)

/-- Every result on record is under an id that was given out. -/
def Recalled (s : GateState) : Prop :=
  ∀ k ∈ s.evaluations.keys, ∃ n ≤ s.ids.count .evaluation, k = .str (Ids.textOf .evaluation n)

theorem Recalled.mono {t : GateState} (h : Recalled s) (he : t.evaluations = s.evaluations)
    (hgiven : s.ids.count .evaluation ≤ t.ids.count .evaluation) : Recalled t := by
  intro k hk
  rw [he] at hk
  obtain ⟨n, hn, rfl⟩ := h k hk
  exact ⟨n, by omega, rfl⟩

/-- The text of the id of the next run. -/
def runText (s : GateState) : String := Ids.textOf .evaluation ((s.ids.bump .evaluation).count .evaluation)

theorem Recalled.new (h : Recalled s) : Key.str (runText s) ∉ s.evaluations.keys := by
  intro hk
  obtain ⟨n, hn, heq⟩ := h _ hk
  have hnumber := Ids.textOf_inj (Key.str.inj heq)
  rw [count_bump_self] at hnumber
  omega

/-- The results are under ids that were given out, and so was the id with this number. -/
structure RecalledFrom (n : Nat) (s : GateState) : Prop where
  recalled : Recalled s
  given : n ≤ s.ids.count .evaluation

theorem RecalledFrom.worked {n : Nat} {t : GateState} (h : RecalledFrom n s) (ht : Worked s t) : RecalledFrom n t where
  recalled := h.recalled.mono ht.evaluations ht.given
  given := Nat.le_trans h.given ht.given

/-- A result is kept under the id of its run only, which was given out. -/
theorem RecalledFrom.kept {n : Nat} {t : GateState} {r : EnforcementResult} (h : RecalledFrom n s)
    (ht : KeptResult s (.str (Ids.textOf .evaluation n)) r t) : RecalledFrom n t := by
  obtain ⟨u, hu, hput, ht'⟩ := ht.kept
  have hrecalled := h.worked hu
  rw [ht']
  refine ⟨fun k hk => ?_, hrecalled.given⟩
  rcases Store.mem_keys_put ht.named hput hk with rfl | hk
  · exact ⟨n, hrecalled.given, rfl⟩
  · exact hrecalled.recalled k hk

end Frames

end Gate

open Gate

/-! ## Turns on their way -/

/-- The gate has changed as turns change it, and the turns that are left go on so. -/
structure World.Underway (s : GateState) (w : World) : Prop where
  worked : Worked s w.gate
  moves : ∀ t ∈ w.left, t.Moves Worked

/-- A turn that was left goes on. -/
theorem World.Underway.goOn {s : GateState} {w : World} (h : w.Underway s) (i : Nat) : (w.goOn i).Underway s := by
  obtain ⟨hgate, hleft⟩ := Task.Moves.goOn h.moves (Worked.refl w.gate) i
  exact ⟨h.worked.trans hgate, hleft⟩

theorem World.length_goOn (w : World) (i : Nat) : (w.goOn i).left.length = w.left.length :=
  Task.length_goOn i w.left w.gate

/-- Turns of a run and those left before it have changed the gate as turns do, and go on so. -/
structure Gathering.Underway (s : GateState) (n : Nat) (g : Gathering) : Prop where
  world : g.world.Underway s
  own : ∀ t ∈ g.own, t.Moves Worked
  left : g.world.left.length = n

namespace Gathering.Underway

variable {s : GateState} {n : Nat} {g : Gathering}

theorem goOn (h : g.Underway s n) : ∀ pick, (g.goOn pick).Underway s n
  | .left i => ⟨h.world.goOn i, h.own, (World.length_goOn g.world i).trans h.left⟩
  | .own i => by
    obtain ⟨hgate, hown⟩ := Task.Moves.goOn h.own (Worked.refl g.world.gate) i
    exact ⟨⟨h.world.worked.trans hgate, h.world.moves⟩, hown, h.left⟩

theorem foldl_goOn (schedule : List Pick) (h : g.Underway s n) : (schedule.foldl Gathering.goOn g).Underway s n := by
  induction schedule generalizing g with
  | nil => exact h
  | cons pick schedule ih => exact ih (h.goOn pick)

end Gathering.Underway

/-! ## Runs -/

namespace Joint

section Runs

variable {s : GateState} {w : World} {schedule : List Pick} {others : Collaborators} {id tenantId : Value}
  {policies : List Policy} {c : EvaluationContext} {cancel : Cancellation} {before : Nat} {start : Timestamp}
  {ds : List Dependency}

theorem outcome_gather (schedule : List Pick) (turns : List (Task (Dependency × Turn))) (w : World) :
    outcome (gather schedule turns) w =
      let g := schedule.foldl Gathering.goOn ⟨w, turns, none⟩
      match g.failure with
      | none => outcome (liftM (takeAll Task.run g.own)) g.world
      | some e => (.error e, { g.world with left := g.world.left ++ g.own }) := by
  change outcome (match (schedule.foldl Gathering.goOn ⟨w, turns, none⟩).failure with
    | none => _
    | some e => _) _ = _
  dsimp only
  cases (schedule.foldl Gathering.goOn ⟨w, turns, none⟩).failure <;> rfl

/-- Turns change the gate as turns do, whoever goes on when; those of a run that returns have all ended. -/
theorem underway_gather {turns : List (Task (Dependency × Turn))} (hw : w.Underway s)
    (h : ∀ t ∈ turns, t.Moves Worked) {r : Reading (List (Dependency × Turn))} {w' : World}
    (ho : outcome (gather schedule turns) w = (r, w')) :
    w'.Underway s ∧ ∀ l, r = .ok l → w'.left.length = w.left.length := by
  have hg : (schedule.foldl Gathering.goOn ⟨w, turns, none⟩).Underway s w.left.length :=
    .foldl_goOn schedule ⟨hw, h, rfl⟩
  rw [outcome_gather] at ho
  dsimp only at ho
  generalize schedule.foldl Gathering.goOn ⟨w, turns, none⟩ = g at hg ho
  cases hfailure : g.failure with
  | none =>
    rw [hfailure] at ho
    obtain ⟨rfl, rfl⟩ := Prod.mk.inj ho
    have hkeeps : Keeps (Worked s) (takeAll Task.run g.own) :=
      .takeAll fun t ht => Task.Moves.keeps_run (I := Worked s) (fun _ _ => Worked.trans) (hg.own t ht)
    exact ⟨⟨(hkeeps g.world.gate hg.world.worked).1, hg.world.moves⟩, fun _ _ => hg.left⟩
  | some e =>
    rw [hfailure] at ho
    obtain ⟨rfl, rfl⟩ := Prod.mk.inj ho
    refine ⟨⟨hg.world.worked, fun t ht => ?_⟩, nofun⟩
    rcases List.mem_append.mp ht with ht | ht
    · exact hg.world.moves t ht
    · exact hg.own t ht

/-- How the turns of a run come to an end: with a result that is kept, and then they have all ended; or with a failure
that leaves the results alone. -/
structure Taken (s : GateState) (id : Value) (n : Nat) (r : Reading EnforcementResult) (w : World) : Prop where
  kept : ∀ result, r = .ok result → KeptResult s id result w.gate ∧ w.left.length = n
  failed : ∀ f, r = .error f → Worked s w.gate
  moves : ∀ t ∈ w.left, t.Moves Worked

theorem taken_runTurns (hw : w.Underway s) {r : Reading EnforcementResult} {w' : World}
    (h : outcome (runTurns schedule others id tenantId policies c cancel before start ds) w = (r, w')) :
    Taken s id w.left.length r w' := by
  unfold runTurns at h
  rw [outcome_bind, outcome_ofGate, outcome_ofReading] at h
  cases hactive : Policy.active (policies.filter (·.tenantId.same tenantId)) with
  | error f =>
    rw [hactive] at h
    obtain ⟨rfl, rfl⟩ := Prod.mk.inj h
    exact ⟨by rintro _ ⟨⟩, fun _ _ => hw.worked, hw.moves⟩
  | ok active =>
    have hmoves : ∀ t ∈ ds.zipIdx.map (turn others id tenantId active c cancel before), Task.Moves Worked t := by
      intro t ht
      obtain ⟨dn, -, rfl⟩ := List.mem_map.mp ht
      exact Worked.stretches.moves_turn dn
    rw [hactive] at h
    dsimp only at h
    rw [outcome_bind] at h
    rcases ho : outcome (gather schedule (ds.zipIdx.map (turn others id tenantId active c cancel before))) w
      with ⟨f | turns, u⟩
    · obtain ⟨hgather, -⟩ := underway_gather hw hmoves ho
      rw [ho] at h
      obtain ⟨rfl, rfl⟩ := Prod.mk.inj h
      exact ⟨by rintro _ ⟨⟩, fun _ _ => hgather.worked, hgather.moves⟩
    · obtain ⟨hgather, hended⟩ := underway_gather hw hmoves ho
      rw [ho] at h
      dsimp only at h
      rw [outcome_ofGate] at h
      obtain ⟨rfl, rfl⟩ := Prod.mk.inj h
      have hsettles : Settles (Worked s) (conclude id tenantId active start ds turns) (KeptResult s id) (Worked s) :=
        settles_conclude
      obtain ⟨hreturns, hfails⟩ := hsettles u.gate hgather.worked
      exact ⟨fun result hresult => ⟨hreturns result _ (Prod.ext hresult rfl), hended turns rfl⟩,
        fun f hf => hfails f _ (Prod.ext hf rfl), hgather.moves⟩

/-- A run takes an id, under which it tells of itself. -/
theorem outcome_evaluateAll (w : World) :
    outcome (evaluateAll schedule others ds tenantId policies c cancel) w =
      outcome (telling (runId w.gate) tenantId ds.length (runTurns schedule others (runId w.gate) tenantId policies c
          cancel w.gate.events.length w.gate.now ds))
        { w with gate := { w.gate with ids := w.gate.ids.bump .evaluation } } := by
  unfold evaluateAll
  rw [outcome_bind, outcome_ofGate, show Gate.outcome (fresh .evaluation) w.gate = _ from returns_fresh .evaluation w.gate]
  dsimp only
  rw [outcome_bind, outcome_ofGate, outcome_clock]
  dsimp only
  rw [outcome_bind]
  rfl

/-- However a step ends, it keeps what holds of a world. -/
def Preserves {α : Type} (I : World → Prop) (x : Joint α) : Prop := ∀ w, I w → I (outcome x w).2

namespace Preserves

variable {I : World → Prop} {α β : Type} {x : Joint α}

theorem pure {a : α} : Preserves I (pure a) := fun _ hw => hw

theorem throw {e : Fault} : Preserves I (throw e : Joint α) := fun _ hw => hw

theorem bind {f : α → Joint β} (hx : Preserves I x) (hf : ∀ a, Preserves I (f a)) : Preserves I (x >>= f) := by
  intro w hw
  rw [outcome_bind]
  have hkept := hx w hw
  generalize outcome x w = o at hkept ⊢
  obtain ⟨e | a, w'⟩ := o
  · exact hkept
  · exact hf a w' hkept

theorem tryCatch {handle : Fault → Joint α} (hx : Preserves I x) (hh : ∀ e, Preserves I (handle e)) :
    Preserves I (tryCatch x handle) := by
  intro w hw
  rw [outcome_tryCatch]
  have hkept := hx w hw
  generalize outcome x w = o at hkept ⊢
  obtain ⟨e | a, w'⟩ := o
  · exact hh e w' hkept
  · exact hkept

/-- What is kept by events is kept by telling of turns that keep it. -/
theorem telling {run : Joint EnforcementResult} {n : Nat} (hp : ∀ e, Preserves I (liftM (publish e)))
    (hrun : Preserves I run) : Preserves I (telling id tenantId n run) :=
  (hp _).bind fun _ => (hrun.tryCatch fun _ => (hp _).bind fun _ => throw).bind fun _ => (hp _).bind fun _ => pure

end Preserves

/-- However a run ends, and whatever it could tell, the results are under ids that were given out. -/
theorem recalled_evaluateAll (hw : ∀ t ∈ w.left, t.Moves Worked) (h : Recalled w.gate) :
    Recalled (outcome (evaluateAll schedule others ds tenantId policies c cancel) w).2.gate ∧
      ∀ t ∈ (outcome (evaluateAll schedule others ds tenantId policies c cancel) w).2.left, t.Moves Worked := by
  -- The id of the run is given out first, so its result may be kept.
  have hbumped : Recalled { w.gate with ids := w.gate.ids.bump .evaluation } := by
    refine h.mono rfl ?_
    change _ ≤ (w.gate.ids.bump .evaluation).count .evaluation
    rw [count_bump_self]
    omega
  have hpreserves : ∀ n, Preserves (fun w => RecalledFrom n w.gate ∧ ∀ t ∈ w.left, t.Moves Worked)
      (telling (.str (Ids.textOf .evaluation n)) tenantId ds.length (runTurns schedule others
        (.str (Ids.textOf .evaluation n)) tenantId policies c cancel w.gate.events.length w.gate.now ds)) := by
    intro n
    refine .telling (fun e w hw => ⟨?_, hw.2⟩) fun w hw => ?_
    · exact (keeps_publish_of (e := e) fun _ ht => ⟨ht.recalled, ht.given⟩) w.gate hw.1 |>.1
    · generalize ho : outcome _ w = o
      obtain ⟨f | r, w'⟩ := o
      · have htaken := taken_runTurns ⟨Worked.refl w.gate, hw.2⟩ ho
        exact ⟨hw.1.worked (htaken.failed f rfl), htaken.moves⟩
      · have htaken := taken_runTurns ⟨Worked.refl w.gate, hw.2⟩ ho
        exact ⟨hw.1.kept (htaken.kept r rfl).1, htaken.moves⟩
  rw [outcome_evaluateAll]
  obtain ⟨hrecalled, hmoves⟩ := hpreserves _ { w with gate := { w.gate with ids := w.gate.ids.bump .evaluation } }
    ⟨⟨hbumped, Nat.le_refl _⟩, hw⟩
  exact ⟨hrecalled.recalled, hmoves⟩

end Runs

end Joint

/-- The same of a run whose turns are taken one after the other. -/
theorem Gate.Recalled.evaluateAll {s : GateState} (h : Recalled s) {others : Collaborators} {ds : List Dependency}
    {tenantId : Value} {policies : List Policy} {c : EvaluationContext} {cancel : Cancellation} :
    Recalled (outcome (Gate.evaluateAll others ds tenantId policies c cancel) s).2 := by
  have hkept : Recalled (Joint.outcome (Joint.evaluateAll [] others ds tenantId policies c cancel) ⟨s, []⟩).2.gate :=
    (Joint.recalled_evaluateAll (by simp) h).1
  rwa [Joint.evaluateAll_nil] at hkept

end SupplyGate
