import SupplyGate.Proofs.Risk.Assessments
import SupplyGate.Proofs.Store.Memory

/-!
# Requests about the risk of tenants

A risk service sets the business context or the criteria of a tenant, and assesses dependencies or assesses
them again. What each of these writes where it is answered is told here, and that a refused one has only taken
ids. But a context is put in before its document is made, so that it stays where that fails
(`outcome_setContext`), and so do a context and an assessment of which the program's log cannot tell.
-/

namespace SupplyGate

open Gate

/-- A request about the risk of a tenant. -/
inductive RiskRequest where
  | setContext (c : BusinessContext)
  | setCriteria (tenantId overrides : Value)
  | assess (d : Dependency) (vs : List Vulnerability) (tenantId : Value) (given : Option BusinessContext)
      (assessedBy : Value)
  | reassess (assessmentId : Value) (d : Option Dependency) (vs : Option (List Vulnerability)) (assessedBy : Value)
      (given : Option BusinessContext)

/-- What a request does. -/
def RiskRequest.run (scoring : Scoring) : RiskRequest → Gate Unit
  | setContext c => Gate.setContext c
  | setCriteria tenantId overrides => discard (Gate.setCriteria tenantId overrides)
  | assess d vs tenantId given assessedBy => discard (Gate.assess scoring d vs tenantId given assessedBy)
  | reassess assessmentId d vs assessedBy given => discard (Gate.reassess scoring assessmentId d vs assessedBy given)

namespace Gate

/-! ## Stores in memory -/

section Memory

variable {α : Type} [Stored α] (shelf : Shelf α) {m : MemoryStore α} {s : GateState}

theorem outcome_keep_memory (hm : shelf.read s = .memory m) (a : α) :
    outcome (keep shelf a) s = match MemoryStore.keyOf a with
      | .ok k => (.ok (), shelf.write s (.memory (m.store k a)))
      | .error f => (.error f, s) := by
  rw [outcome_keep, hm, show (Store.memory m).put a = Store.memory <$> m.put a from rfl, MemoryStore.put]
  cases MemoryStore.keyOf a <;> rfl

/-- A record is put in, or nothing happens. -/
theorem settles_keep_memory (hm : shelf.read s = .memory m) (a : α) :
    Settles (· = s) (keep shelf a)
      (fun _ t => ∃ k, t = shelf.write s (.memory (m.store k a)) ∧ MemoryStore.keyOf a = .ok k) (· = s) := by
  rintro _ rfl
  unfold Returns Fails
  rw [outcome_keep_memory shelf hm]
  cases MemoryStore.keyOf a with
  | error f =>
    refine ⟨fun _ _ ht => ?_, fun _ _ hf => ?_⟩
    · cases ht
    · cases hf
      rfl
  | ok k =>
    refine ⟨fun _ _ ht => ?_, fun _ _ hf => ?_⟩
    · cases ht
      exact ⟨k, rfl, rfl⟩
    · cases hf

/-- A record whose key can be read is put in. -/
theorem settles_keep_keyed {E : GateState → Prop} (hm : shelf.read s = .memory m) {k : Key} {a : α}
    (hk : MemoryStore.keyOf a = .ok k) :
    Settles (· = s) (keep shelf a) (fun _ t => t = shelf.write s (.memory (m.store k a))) E := by
  refine .of_outcome fun u hu => ?_
  subst hu
  rw [outcome_keep_memory shelf hm, hk]
  exact ⟨(), _, rfl, rfl⟩

/-- A record is added under a free key, or nothing happens. -/
theorem settles_add_memory (hm : shelf.read s = .memory m) (a : α) :
    Settles (· = s) (add shelf a) (fun _ t => ∃ k, t = shelf.write s (.memory (m.store k a)) ∧
      MemoryStore.keyOf a = .ok k ∧ m.lookup k = none) (· = s) := by
  rintro _ rfl
  refine ⟨fun _ t ht => ?_, fun f t hf => ?_⟩
  · obtain ⟨u, hu, rfl⟩ := (returns_add _).mp ht
    rw [hm] at hu
    obtain ⟨m', hm', rfl⟩ := Store.add_memory.mp hu
    obtain ⟨k, hk, hfree, rfl⟩ := MemoryStore.add_ok.mp hm'
    exact ⟨k, rfl, hk, hfree⟩
  · rw [Fails, outcome_add] at hf
    split at hf <;> cases hf
    rfl

/-- What is found by an id stands under its key. -/
theorem yields_find_memory {I : GateState → Prop} (hI : ∀ s, I s → shelf.read s = .memory m) (id : Value) :
    Yields I (find shelf id) fun o => ∃ k, id.asKey = .ok k ∧ o = m.lookup k := by
  intro s hs
  rw [outcome_find, hI s hs]
  exact ⟨hs, fun o ho => MemoryStore.get_ok.mp ho⟩

end Memory

/-! ## Contexts and criteria -/

/-- The stores of a risk service are in memory, and events are not logged. -/
structure AtRisk (as : MemoryStore Assessment) (cs : MemoryStore BusinessContext) (ks : MemoryStore Criteria)
    (s : GateState) : Prop where
  assessments : s.assessments = .memory as
  contexts : s.contexts = .memory cs
  criteria : s.criteria = .memory ks
  unlogged : s.logsEvents = false

section Requests

variable {as : MemoryStore Assessment} {cs : MemoryStore BusinessContext} {ks : MemoryStore Criteria} {s t : GateState}

theorem AtRisk.took (h : AtRisk as cs ks s) (ht : Took s t) : AtRisk as cs ks t := by
  rw [ht.eq]
  exact ⟨h.assessments, h.contexts, h.criteria, h.unlogged⟩

/-- The document of a context for the event that tells of it. Before, the program's log has to write the tenant. -/
def toldContext (c : BusinessContext) : Reading Value := do
  Value.checkAll [c.tenantId]
  c.toDoc

/-- A context is put in before it is known that it can be told of. -/
theorem outcome_setContext (h : AtRisk as cs ks s) (c : BusinessContext) :
    outcome (setContext c) s = match MemoryStore.keyOf c, toldContext c with
      | .ok k, .ok doc => (.ok (), { s with
          contexts := .memory (cs.store k c), events := s.events ++ [.contextUpdated c.tenantId doc] })
      | .ok k, .error f => (.error f, { s with contexts := .memory (cs.store k c) })
      | .error f, _ => (.error f, s) := by
  unfold setContext
  rw [outcome_bind, outcome_keep_memory .contexts h.contexts]
  cases MemoryStore.keyOf c with
  | error f => rfl
  | ok k =>
    dsimp only
    unfold toldContext
    rw [outcome_bind, logValues, outcome_ofReading]
    cases Value.checkAll [c.tenantId] with
    | error f => rfl
    | ok _ =>
      dsimp only
      rw [outcome_bind, liftM_eq_ofReading, outcome_ofReading]
      cases c.toDoc with
      | error f => rfl
      | ok doc => exact outcome_publish_unlogged _ h.unlogged

/-- Criteria are put in, or nothing happens. -/
theorem settles_setCriteria (h : AtRisk as cs ks s) (tenantId overrides : Value) :
    Settles (· = s) (setCriteria tenantId overrides) (fun c t => ∃ k,
      t = { s with criteria := .memory (ks.store k c), events := s.events ++ [.criteriaUpdated tenantId c.toDoc] } ∧
        MemoryStore.keyOf c = .ok k) (· = s) := by
  have hcriteria : Keeps (· = s) (getCriteria tenantId) := keeps_find.bind fun _ => keeps_pure
  refine .after hcriteria (fun _ => id) fun current _ => .after keeps_ofReading (fun _ => id) fun merged _ => ?_
  refine (settles_keep_memory .criteria h.criteria _).bind fun _ => .of_exists fun k => .of_and fun hk => ?_
  refine settles_publish_return ?_ ?_
  · rintro _ rfl
    exact h.unlogged
  · rintro _ rfl
    exact ⟨k, rfl, hk⟩

/-! ## Assessments -/

/-- A sound assessment was added under a free key. -/
def AddedAssessment (as : MemoryStore Assessment) (scoring : Scoring) (s : GateState) (a : Assessment) (t : GateState) :
    Prop :=
  ∃ k u, t = { u with assessments := .memory (as.store k a) } ∧ Took s u ∧ a.Sound scoring.validityDays ∧
    MemoryStore.keyOf a = .ok k ∧ as.lookup k = none ∧ a.Unlinked

/-- An assessment is added under a free key; or ids were taken only. -/
theorem settles_enterAssessment (h : AtRisk as cs ks s) (scoring : Scoring) (d : Dependency) (vs : List Vulnerability)
    (tenantId : Value) (given : Option BusinessContext) (assessedBy : Value) :
    Settles (Took s) (enterAssessment scoring d vs tenantId given assessedBy) (AddedAssessment as scoring s) (Took s) := by
  refine .after (yields_compute scoring d vs tenantId given assessedBy) (fun _ => id) fun a ⟨ha, hunlinked⟩ => ?_
  refine .pointwise fun u hu => ?_
  have hread : Shelf.assessments.read u = .memory as := (h.took hu).assessments
  refine ((settles_add_memory .assessments hread a).mono (fun _ _ ht => ht) fun _ ht => ht ▸ hu).bind fun _ => ?_
  refine .of_exists fun k => .of_and fun ⟨hk, hfree⟩ => .pure ?_
  rintro _ rfl
  exact ⟨k, u, rfl, hu, ha, hk, hfree, hunlinked⟩

/-- An assessment is added under a free key, and the one with this id is marked, which it supersedes; or ids were
taken only. -/
theorem settles_reassess (h : AtRisk as cs ks s) (hkeyed : as.Every fun k a => MemoryStore.keyOf a = .ok k)
    (scoring : Scoring) (assessmentId : Value) (d : Option Dependency) (vs : Option (List Vulnerability))
    (assessedBy : Value) (given : Option BusinessContext) :
    Settles (Took s) (reassess scoring assessmentId d vs assessedBy given) (fun a t => ∃ k l previous u,
      t = { u with
        assessments := .memory <|
          (as.store k a).store l { previous with supersededBy := a.id, lastUpdated := a.assessedAt }
        events := u.events ++ [.riskReassessed a.tenantId a.id previous.id a.level a.overall] } ∧
        Took s u ∧ a.Sound scoring.validityDays ∧ MemoryStore.keyOf a = .ok k ∧ as.lookup k = none ∧
          as.lookup l = some previous ∧ assessmentId.asKey = .ok l ∧
          ∃ b : Assessment, b.Unlinked ∧ a = { b with supersedes := previous.id })
      (Took s) := by
  have hget : Yields (Took s) (getAssessment assessmentId) fun previous =>
      ∃ l, as.lookup l = some previous ∧ assessmentId.asKey = .ok l := by
    have hfind := yields_find_memory .assessments (fun u hu => (h.took hu).assessments) assessmentId
    refine hfind.bind fun o ⟨l, hl, ho⟩ => ?_
    cases o with
    | none => exact .throw
    | some previous => exact .pure ⟨l, ho.symm, hl⟩
  refine .after hget (fun _ => id) fun previous ⟨l, hprevious, hid⟩ => ?_
  split
  · exact .after (F := fun _ => False) .throw (fun _ => id) fun _ => False.elim
  refine .after (yields_compute scoring _ _ _ _ assessedBy) (fun _ => id) fun a ⟨ha, hunlinked⟩ => ?_
  refine .pointwise fun u hu => ?_
  have hread : Shelf.assessments.read u = .memory as := (h.took hu).assessments
  refine ((settles_add_memory .assessments hread _).mono (fun _ _ ht => ht) fun _ ht => ht ▸ hu).bind fun _ => ?_
  refine .of_exists fun k => .of_and fun ⟨hk, hfree⟩ => ?_
  have hl : MemoryStore.keyOf previous = .ok l := hkeyed.lookup hprevious
  have hmarked : MemoryStore.keyOf { previous with supersededBy := a.id, lastUpdated := a.assessedAt } = .ok l := hl
  refine (settles_keep_keyed .assessments rfl hmarked).bind fun _ => settles_publish_return ?_ ?_
  · rintro _ rfl
    exact (h.took hu).unlogged
  · rintro _ rfl
    exact ⟨k, l, previous, u, rfl, hu, ha.linked _ _ _, hk, hfree, hprevious, hid, a, hunlinked, rfl⟩

/-! ## What requests tell of -/

theorem unlogged_enterAssessment (scoring : Scoring) (d : Dependency) (vs : List Vulnerability) (tenantId : Value)
    (given : Option BusinessContext) (assessedBy : Value) :
    Keeps (fun s => s.logsEvents = false) (enterAssessment scoring d vs tenantId given assessedBy) := by
  have hcompute : Keeps (fun s => s.logsEvents = false) (compute scoring d vs tenantId given assessedBy) := by
    intro s hs
    have htook := (yields_compute scoring d vs tenantId given assessedBy s (.refl s)).1
    refine ⟨?_, fun _ _ => trivial⟩
    rw [htook.eq]
    exact hs
  refine hcompute.bind fun a => Keeps.bind (fun s hs => ⟨?_, fun _ _ => trivial⟩) fun _ => keeps_pure
  rw [outcome_add]
  split <;> exact hs

end Requests

end Gate

namespace RiskRequest

/-- What a request writes, with the values that the program's log tells of it. Where the writing is not told of apart,
this is all that the request does. -/
def written (scoring : Scoring) : RiskRequest → Gate (List Value)
  | assess d vs tenantId given assessedBy => do
    let _ ← enterAssessment scoring d vs tenantId given assessedBy
    return [d.name, tenantId]
  | r => do
    r.run scoring
    return []

/-- **What a request tells of** is what it writes. -/
theorem tells (scoring : Scoring) (r : RiskRequest) : TellsOf (r.written scoring) (r.run scoring) := by
  cases r with
  | assess d vs tenantId given assessedBy =>
    exact (TellsOf.bind (unlogged_enterAssessment scoring d vs tenantId given assessedBy) fun _ => .log_return).discard
  | setContext => exact .quiet
  | setCriteria => exact .quiet
  | reassess => exact .quiet

end RiskRequest

end SupplyGate
