import SupplyGate.Gate.Interleaving
import SupplyGate.Proofs.Gate.Runs

/-!
# Turns that go on side by side

The stretches of a task, one after the other, are the step that the task was made from: the turn of a dependency is
the same turn whether or not it may pause (`Task.run_turn`), and a run with the empty schedule is the run that takes its
turns one after the other (`Joint.evaluateAll_nil`).

What each stretch of a task does to a state, whatever others have made of it meanwhile, is what the task does under
every schedule. `Task.Moves R` says that each stretch relates the states before and after it by `R`, and turns move as
their steps do (`Task.moves_turn`).
-/

namespace SupplyGate

open Gate

theorem Gate.ext_outcome {α : Type} {x y : Gate α} (h : ∀ s, outcome x s = outcome y s) : x = y := funext h

namespace Task

variable {α β γ : Type}

theorem id_map (t : Task α) : id <$> t = t := by
  induction t with
  | ended r => cases r <;> rfl
  | stretch change rest ih => exact congrArg (stretch change) (funext ih)

theorem bind_assoc (t : Task α) (f : α → Task β) (g : β → Task γ) : t >>= f >>= g = t >>= fun a => f a >>= g := by
  induction t with
  | ended r => cases r <;> rfl
  | stretch change rest ih => exact congrArg (stretch change) (funext ih)

instance : LawfulMonad Task := .mk' _ id_map (fun _ _ => rfl) bind_assoc

/-! ## All stretches of a task -/

@[simp] theorem run_pure (a : α) : (pure a : Task α).run = pure a := rfl

@[simp] theorem run_throw (e : Fault) : (throw e : Task α).run = throw e := rfl

@[simp] theorem run_ofGate (x : Gate α) : (liftM x : Task α).run = x := by
  refine ext_outcome fun s => ?_
  change outcome (ofReading (outcome x s).1) (outcome x s).2 = _
  rw [outcome_ofReading]

@[simp] theorem run_bind (t : Task α) (f : α → Task β) : (t >>= f).run = t.run >>= fun a => (f a).run := by
  refine ext_outcome fun s => ?_
  induction t generalizing s with
  | ended r => cases r <;> rfl
  | stretch change rest ih =>
    have hrest := ih s (change s)
    rw [outcome_bind] at hrest ⊢
    exact hrest

@[simp] theorem run_map (g : α → β) (t : Task α) : (g <$> t).run = g <$> t.run := by
  rw [map_eq_pure_bind, map_eq_pure_bind, run_bind]
  rfl

@[simp] theorem run_tryCatch (t : Task α) (handle : Fault → Task α) :
    (MonadExcept.tryCatch t handle).run = MonadExcept.tryCatch t.run fun e => (handle e).run := by
  refine ext_outcome fun s => ?_
  induction t generalizing s with
  | ended r => cases r <;> rfl
  | stretch change rest ih =>
    have hrest := ih s (change s)
    rw [outcome_tryCatch] at hrest ⊢
    exact hrest

@[simp] theorem run_mapM (f : α → Task β) (as : List α) : (as.mapM f).run = as.mapM fun a => (f a).run := by
  induction as with
  | nil => rfl
  | cons a as ih => simp only [List.mapM_cons, run_bind, ih, run_pure]

section Turns

variable {others : Collaborators} {config : ActionConfig} {v : Violation} {c : EvaluationContext}

@[simp] theorem run_notify : (notify others config v : Task Value).run = notify others config v := by
  simp [notify]

@[simp] theorem run_createIssue : (createIssue others config v : Task Value).run = createIssue others config v := by
  unfold createIssue
  cases config.issueTracker <;> simp

@[simp] theorem run_perform (a : RuleAction) : (perform others v c a : Task Value).run = perform others v c a := by
  unfold perform
  cases (Scale.ofText? a.type : Option ActionType) with
  | none => simp
  | some type => cases type <;> simp

@[simp] theorem run_runAction (a : RuleAction) :
    (runAction others v c a : Task ExecutedAction).run = runAction others v c a := by
  simp [runAction]

@[simp] theorem run_execute : (execute others c v : Task (List ExecutedAction)).run = execute others c v := by
  simp [execute]

@[simp] theorem run_evaluateAndAct {policies : List Policy} {d : Dependency} :
    (evaluateAndAct others policies c d : Task Turn).run = evaluateAndAct others policies c d := by
  simp [evaluateAndAct]

/-- A turn whose stretches follow one another is the turn that does not pause. -/
@[simp] theorem run_turn {evaluationId tenantId : Value} {policies : List Policy} {cancel : Cancellation} {before : Nat}
    (dn : Dependency × Nat) :
    (turn others evaluationId tenantId policies c cancel before dn : Task (Dependency × Turn)).run =
      turn others evaluationId tenantId policies c cancel before dn := by
  obtain ⟨d, n⟩ := dn
  rw [turn_eq]
  unfold turn
  rw [run_bind, run_ofGate]
  refine congrArg (get >>= ·) (funext fun s => ?_)
  split <;> simp

end Turns

theorem length_goOn (i : Nat) (tasks : List (Task α)) (s : GateState) :
    (goOn i tasks s).1.length = tasks.length := by
  unfold goOn
  split
  · exact List.length_set
  · rfl

/-! ## Stretches -/

section Moves

variable {R : GateState → GateState → Prop}

/-- Every stretch of the task, from any state, relates the state before to the state after it. -/
def Moves (R : GateState → GateState → Prop) : Task α → Prop
  | .ended _ => True
  | .stretch change rest => ∀ s, R s (change s) ∧ (rest s).Moves R

namespace Moves

theorem ofGate {x : Gate α} (h : ∀ s, R s (outcome x s).2) : (liftM x : Task α).Moves R := fun s => ⟨h s, trivial⟩

theorem bind {t : Task α} {f : α → Task β} (ht : t.Moves R) (hf : ∀ a, (f a).Moves R) : (t >>= f).Moves R := by
  induction t with
  | ended r =>
    cases r with
    | error e => trivial
    | ok a => exact hf a
  | stretch change rest ih => exact fun s => ⟨(ht s).1, ih s (ht s).2⟩

theorem tryCatch {t : Task α} {handle : Fault → Task α} (ht : t.Moves R) (hh : ∀ e, (handle e).Moves R) :
    (MonadExcept.tryCatch t handle).Moves R := by
  induction t with
  | ended r =>
    cases r with
    | error e => exact hh e
    | ok a => trivial
  | stretch change rest ih => exact fun s => ⟨(ht s).1, ih s (ht s).2⟩

theorem mapM {f : α → Task β} (h : ∀ a, (f a).Moves R) : ∀ as : List α, (as.mapM f).Moves R
  | [] => trivial
  | a :: as => by
    rw [List.mapM_cons]
    exact (h a).bind fun b => (mapM h as).bind fun bs => trivial

/-- All stretches of a task keep what each of them keeps. -/
theorem keeps_run {I : GateState → Prop} (hI : ∀ s u, I s → R s u → I u) {t : Task α} (ht : t.Moves R) :
    Keeps I t.run := by
  induction t with
  | ended r => exact keeps_ofReading
  | stretch change rest ih =>
    intro s hs
    exact ih s (ht s).2 (change s) (hI s _ hs (ht s).1)

/-- A task that goes on takes one of its stretches, or it has ended. -/
theorem goOn {tasks : List (Task α)} {s : GateState} (h : ∀ t ∈ tasks, t.Moves R) (hR : R s s) (i : Nat) :
    R s (Task.goOn i tasks s).2 ∧ ∀ t ∈ (Task.goOn i tasks s).1, t.Moves R := by
  unfold Task.goOn
  split
  · next change rest hi =>
    obtain ⟨hchange, hrest⟩ := h _ (List.mem_of_getElem? hi) s
    refine ⟨hchange, fun t ht => ?_⟩
    rcases List.mem_or_eq_of_mem_set ht with ht | rfl
    · exact h t ht
    · exact hrest
  · exact ⟨hR, h⟩

end Moves

/-! ## Turns -/

/-- A relation between the states before and after a stretch that what the turns of a run do stands in, where
findings are detected in it, too. -/
structure Stretches (R : GateState → GateState → Prop) : Prop where
  refl : ∀ s, R s s
  working : ∀ s, Working (R s)
  detects : ∀ s p r d o c now, Keeps (R s) (detect p r d o c now)

namespace Stretches

variable (hR : Stretches R) {others : Collaborators} {config : ActionConfig} {v : Violation} {c : EvaluationContext}
include hR

theorem moves {x : Gate α} (h : ∀ s, Keeps (R s) x) : (liftM x : Task α).Moves R :=
  .ofGate fun s => (h s s (hR.refl s)).1

theorem keeps_mention (s : GateState) (e : Event) (he : e.Incidental) : Keeps (R s) (publish e) :=
  (hR.working s).keeps_mention e he.change he.framedRun

theorem keeps_noteCall (s : GateState) (call : CollaboratorCall) : Keeps (R s) (noteCall call) :=
  (hR.working s).keeps_noteCall call

theorem moves_notify : (notify others config v : Task Value).Moves R := by
  refine (hR.moves fun s => keeps_askNotifier (hR.keeps_mention s) (hR.keeps_noteCall s)).bind fun answer => ?_
  exact (hR.moves fun _ => keeps_ofReading).bind fun _ => trivial

theorem moves_createIssue : (createIssue others config v : Task Value).Moves R := by
  unfold createIssue
  cases config.issueTracker with
  | none => trivial
  | some tracker =>
    refine (hR.moves fun _ => keeps_ofReading).bind fun issue => ?_
    refine (hR.moves fun s => keeps_askTracker (hR.keeps_noteCall s)).bind fun answer => ?_
    refine (hR.moves fun _ => keeps_ofReading).bind fun key => ?_
    exact hR.moves fun s => keeps_tellIssue (hR.keeps_mention s)

theorem moves_perform (a : RuleAction) : (perform others v c a : Task Value).Moves R := by
  unfold perform
  cases (Scale.ofText? a.type : Option ActionType) with
  | none => trivial
  | some type =>
    cases type with
    | block => exact hR.moves fun s => keeps_block (hR.keeps_mention s)
    | warn => exact hR.moves fun s => keeps_warn (hR.keeps_mention s)
    | log => exact hR.moves fun s => keeps_log (hR.keeps_mention s)
    | notify => exact hR.moves_notify
    | autoFix => exact hR.moves fun s => keeps_autoFix (hR.keeps_mention s)
    | createIssue => exact hR.moves_createIssue
    | escalate => exact hR.moves fun s => keeps_escalate (hR.keeps_mention s)

theorem moves_execute : (execute others c v : Task (List ExecutedAction)).Moves R := by
  refine Moves.mapM (fun a => Moves.tryCatch ?_ fun e => ?_) _
  · exact (hR.moves_perform a).bind fun _ => (hR.moves fun _ => keeps_clock).bind fun _ => trivial
  · exact (hR.moves fun _ => keeps_clock).bind fun _ => trivial

/-- A turn moves as its steps do. -/
theorem moves_turn {evaluationId tenantId : Value} {policies : List Policy} {cancel : Cancellation} {before : Nat}
    (dn : Dependency × Nat) :
    (turn others evaluationId tenantId policies c cancel before dn : Task (Dependency × Turn)).Moves R := by
  obtain ⟨d, n⟩ := dn
  have hevaluate : (evaluateAndAct others policies c d : Task Turn).Moves R := by
    refine (hR.moves fun s => keeps_evaluateDependency fun p _ r _ o now => hR.detects s p r d o c now).bind fun e => ?_
    exact (Moves.mapM (fun v => hR.moves_execute) _).bind fun _ => trivial
  refine (hR.moves fun _ => keeps_get).bind fun s => ?_
  split
  · trivial
  · refine (Moves.tryCatch hevaluate fun e => hR.moves fun s => ?_).bind fun _ => trivial
    exact (hR.working s).keeps_skip e

end Stretches

end Moves

end Task

/-! ## Runs with the empty schedule -/

namespace Joint

variable {α β : Type}

/-- Result or fault of a step, and the gate and the turns that it leaves. -/
def outcome (x : Joint α) (w : World) : Reading α × World := x.run.run w

theorem ext_outcome {x y : Joint α} (h : ∀ w, outcome x w = outcome y w) : x = y := funext h

theorem outcome_ofGate (x : Gate α) (w : World) :
    outcome (liftM x) w = ((Gate.outcome x w.gate).1, { w with gate := (Gate.outcome x w.gate).2 }) := rfl

theorem outcome_pure (a : α) (w : World) : outcome (pure a) w = (.ok a, w) := rfl

theorem outcome_throw (e : Fault) (w : World) : outcome (throw e : Joint α) w = (.error e, w) := rfl

theorem outcome_bind (x : Joint α) (f : α → Joint β) (w : World) :
    outcome (x >>= f) w = match outcome x w with
      | (.ok a, w') => outcome (f a) w'
      | (.error e, w') => (.error e, w') := by
  change (match x.run.run w with | (r, w') => (ExceptT.bindCont f r).run w') = _
  unfold outcome
  rcases x.run.run w with ⟨_ | _, _⟩ <;> rfl

theorem outcome_tryCatch (x : Joint α) (handle : Fault → Joint α) (w : World) :
    outcome (tryCatch x handle) w = match outcome x w with
      | (.ok a, w') => (.ok a, w')
      | (.error e, w') => outcome (handle e) w' := by
  unfold outcome ExceptT.run StateT.run
  simp only [tryCatch, tryCatchThe, MonadExceptOf.tryCatch, ExceptT.tryCatch, ExceptT.mk, bind, StateT.bind]
  rcases x w with ⟨_ | _, _⟩ <;> rfl

/-- What is known of the gate after a step of it holds after the step is taken at a world. -/
theorem liftM_bind (x : Gate α) (f : α → Gate β) :
    (liftM (x >>= f) : Joint β) = liftM x >>= fun a => liftM (f a) := by
  refine ext_outcome fun w => ?_
  rw [outcome_bind, outcome_ofGate, outcome_ofGate, Gate.outcome_bind]
  rcases Gate.outcome x w.gate with ⟨e | a, s⟩ <;> rfl

theorem liftM_tryCatch (x : Gate α) (handle : Fault → Gate α) :
    (liftM (tryCatch x handle) : Joint α) = tryCatch (liftM x) fun e => liftM (handle e) := by
  refine ext_outcome fun w => ?_
  rw [outcome_tryCatch, outcome_ofGate, outcome_ofGate, Gate.outcome_tryCatch]
  rcases Gate.outcome x w.gate with ⟨e | a, s⟩ <;> rfl

theorem gather_nil (turns : List (Task (Dependency × Turn))) : gather [] turns = liftM (takeAll Task.run turns) :=
  ext_outcome fun _ => rfl

theorem telling_liftM (id tenantId : Value) (count : Nat) (run : Gate EnforcementResult) :
    telling id tenantId count (liftM run : Joint EnforcementResult) = liftM (telling id tenantId count run) := by
  unfold telling
  simp only [liftM_bind, liftM_tryCatch, liftM_self]
  rfl

/-- With the empty schedule, the turns are taken one after the other. -/
theorem evaluateAll_nil (others : Collaborators) (ds : List Dependency) (tenantId : Value) (policies : List Policy)
    (c : EvaluationContext) (cancel : Cancellation) :
    evaluateAll [] others ds tenantId policies c cancel =
      liftM (Gate.evaluateAll others ds tenantId policies c cancel) := by
  have hruns : ∀ id before start, runTurns [] others id tenantId policies c cancel before start ds =
      liftM (Gate.runTurns others id tenantId policies c cancel before start ds) := by
    intro id before start
    have hturns : ∀ active, takeAll Task.run (ds.zipIdx.map (turn others id tenantId active c cancel before)) =
        takeAll (turn others id tenantId active c cancel before) ds.zipIdx := by
      intro active
      unfold takeAll
      simp only [List.mapM_map, Function.comp_def, Task.run_turn]
    unfold runTurns Gate.runTurns
    simp only [gather_nil, hturns, liftM_bind]
    rfl
  unfold evaluateAll Gate.evaluateAll
  simp only [hruns, telling_liftM, liftM_bind]
  rfl

end Joint

end SupplyGate
