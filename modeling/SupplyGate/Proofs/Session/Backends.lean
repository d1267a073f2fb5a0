import SupplyGate.Proofs.Policy.StorableUpdates
import SupplyGate.Proofs.Session.TwinViolations

/-!
# The service is the same over both backends

A policy service answers calls whose arguments are documents. Whether its stores are in memory or hold documents, it
gives the same answers, refuses with the same faults and tells the same events, where ids and tenants are texts and
the documents are `Portable`. An id that is no text tells the two apart: a row answers to the text of the id, and a store
in memory does not.

A portable document is one that a row can hold and that equals what is read from there again. So its whole numbers can
be written, and nothing in it is a float that is not a number: read from a row, that one is another one, which the one
that was written does not equal.
-/

namespace SupplyGate

open Gate

/-! ## Portable documents -/

/-- The scalar is a float that is not a number. -/
def Scalar.isNan : Scalar → Bool
  | .float x => Number.Extended.ofFloat x == .nan
  | _ => false

mutual

/-- Something in the value is not a number. -/
def Value.hasNan : Value → Bool
  | .scalar s => s.isNan
  | .list items => Value.someNan items
  | .map entries => Value.entriesNan entries

def Value.someNan : List Value → Bool
  | [] => false
  | v :: rest => v.hasNan || Value.someNan rest

def Value.entriesNan : List (Scalar × Value) → Bool
  | [] => false
  | (_, v) :: rest => v.hasNan || Value.entriesNan rest

end

/-- A row can hold the value, and what is read from there equals it. -/
structure Value.Portable (v : Value) : Prop where
  storable : v.Storable
  writable : v.isWritable = true
  numbers : v.hasNan = false

theorem Value.Portable.str (s : String) : (Value.str s).Portable := ⟨.str s, rfl, rfl⟩

/-- What a context says is portable, and its time is fixed. -/
structure EvaluationContext.Portable (c : EvaluationContext) : Prop where
  place : c.toDoc.Portable
  cves : ∀ e ∈ c.vulnerabilities, ∀ v ∈ e.2, v.cve.Portable
  scores : ∀ e ∈ c.risks, e.2.score.Portable
  now : ∀ t ∈ c.now, t.Fixed

theorem EvaluationContext.Portable.storable {c : EvaluationContext} (h : c.Portable) : c.Storable where
  place := h.place.storable
  cves e he v hv := (h.cves e he v hv).storable
  scores e he := (h.scores e he).storable
  now := h.now

/-- The keys that the tracker gives are portable. -/
def Collaborators.Portable (others : Collaborators) : Prop :=
  ∀ reply, others.tracker = some reply → ∀ n v, reply n = .done v → v.Portable

theorem Collaborators.Portable.storable {others : Collaborators} (h : others.Portable) : others.Storable :=
  fun reply hreply n v hv => (h reply hreply n v hv).storable

/-! ## Calls -/

/-- A call of a policy service. Policies, updates, exceptions and strategies come as documents. -/
inductive Call where
  /-- The clock moves to a time. -/
  | clock (now : Timestamp)
  | create (tenantId doc createdBy : Value)
  | fromTemplate (tenantId templateId name : Value) (scope : Option Value) (policyId createdBy : Value)
  | ensureTemplate (tenantId templateId createdBy : Value)
  | apply (tenantId doc appliedBy : Value)
  | update (policyId updates updatedBy : Value)
  | delete (policyId : Value)
  | policy (policyId : Value)
  | policies (tenantId : Value)
  | template (templateId : Value)
  | addException (policyId doc : Value)
  | revokeException (policyId exceptionId revokedBy : Value)
  | expireExceptions (now : Option Timestamp)
  | violation (violationId : Value)
  | violations (tenantId : Value) (status : Option ViolationStatus)
  | resolve (violationId resolution resolvedBy : Value)
  | acknowledge (violationId acknowledgedBy assignedTo : Value)
  | suppress (violationId reason suppressedBy : Value)
  | markFalsePositive (violationId reason markedBy : Value)
  /-- A run is cancelled once what it has told, and how far it is, stop it. -/
  | evaluate (others : Collaborators) (dependencies : List Dependency) (tenantId : Value) (c : EvaluationContext)
      (stop : Nat → List (String × Payload) → Bool)
  | evaluation (evaluationId : Value)
  | metrics (tenantId : Value)
  | setStrategy (doc : Value)
  | strategy (tenantId : Value)

section Documents

variable {α : Type} [Stored α]

/-- The document of the record that a step gives. -/
def docOf (x : Gate α) : Gate Value := do
  let a ← x
  ofReading (Stored.toDoc a)

/-- The documents of the records that a step gives. -/
def docsOf (x : Gate (List α)) : Gate Value := do
  let as ← x
  return .list (← ofReading (as.mapM Stored.toDoc))

end Documents

namespace Call

/-- What a call is answered, as a document. -/
def answer : Call → Gate Value
  | clock now => do
    modify fun s => { s with now }
    return .null
  | create tenantId doc createdBy => docOf (createPolicy tenantId (.document doc) createdBy)
  | fromTemplate tenantId templateId name scope policyId createdBy => do
    let scope ← ofReading (PolicyUpdate.optionally PolicyScope.ofDoc scope)
    docOf (createFromTemplate tenantId templateId { name, scope, edits := [], policyId } createdBy)
  | ensureTemplate tenantId templateId createdBy => docOf (Gate.ensureTemplate tenantId templateId createdBy)
  | apply tenantId doc appliedBy => docOf (applyPolicy tenantId (.document doc) appliedBy)
  | update policyId updates updatedBy => docOf (updatePolicy policyId updates updatedBy)
  | delete policyId => do
    deletePolicy policyId
    return .null
  | policy policyId => docOf (getPolicy policyId)
  | policies tenantId => docsOf (policiesOf tenantId)
  | template templateId => do
    let t ← getTemplate templateId
    ofReading t.toDoc
  | addException policyId doc => do
    let e ← ofReading (PolicyException.ofDoc (← Gate.clock) doc)
    return (← Gate.addException policyId e).toDoc
  | revokeException policyId exceptionId revokedBy => do
    return (← Gate.revokeException policyId exceptionId revokedBy).toDoc
  | expireExceptions now => do return .int (← Gate.expireExceptions now)
  | violation violationId => docOf (getViolation violationId)
  | violations tenantId status => docsOf (violationsOf tenantId status)
  | resolve violationId resolution resolvedBy => docOf (Gate.resolve violationId resolution resolvedBy)
  | acknowledge violationId acknowledgedBy assignedTo => docOf (Gate.acknowledge violationId acknowledgedBy assignedTo)
  | suppress violationId reason suppressedBy => docOf (Gate.suppress violationId reason suppressedBy)
  | markFalsePositive violationId reason markedBy => docOf (Gate.markFalsePositive violationId reason markedBy)
  | evaluate others dependencies tenantId c stop => docOf (evaluatePolicies others dependencies tenantId c (.told stop))
  | evaluation evaluationId => do
    match ← evaluationResult evaluationId with
    | some r => ofReading r.toDoc
    | none => return .null
  | metrics tenantId => policyMetrics tenantId
  | setStrategy doc => do
    Gate.setStrategy (← ofReading (UpdateStrategy.ofDoc doc))
    return .null
  | strategy tenantId => do return (← strategyOf tenantId).toDoc

/-- The document of a policy is portable, and the id that it gives, if any, is a text. -/
def PolicyDoc (doc : Value) : Prop := doc.Portable ∧ ∀ id, doc.field "id" "" = .ok id → id.MayName

/-- The document of an update is portable, and describes each field by a document. -/
def UpdateDoc (updates : Value) : Prop :=
  updates.Portable ∧
    ∀ entries, updates = .map entries → ∀ f ∈ PolicyUpdate.changedFields entries, PolicyUpdate.Described f.1 f.2

/-- Ids and tenants are texts, and the documents are portable. -/
def Parsed : Call → Prop
  | clock now => now.Fixed
  | create tenantId doc actor | apply tenantId doc actor => tenantId.IsText ∧ PolicyDoc doc ∧ actor.Portable
  | fromTemplate tenantId _ name scope policyId createdBy =>
    tenantId.IsText ∧ name.Portable ∧ (∀ doc ∈ scope, doc.Portable) ∧ policyId.MayName ∧ createdBy.Portable
  | ensureTemplate tenantId _ createdBy => tenantId.IsText ∧ createdBy.Portable
  | update policyId updates updatedBy => policyId.IsText ∧ UpdateDoc updates ∧ updatedBy.Portable
  | addException policyId doc => policyId.IsText ∧ doc.Portable
  | delete id | policy id | revokeException id _ _ | violation id | evaluation id => id.IsText
  | policies tenantId | violations tenantId _ | metrics tenantId | strategy tenantId => tenantId.IsText
  | template _ | expireExceptions _ => True
  | resolve violationId text actor | acknowledge violationId actor text | markFalsePositive violationId text actor =>
    violationId.IsText ∧ text.Portable ∧ actor.Portable
  | suppress violationId reason _ => violationId.IsText ∧ reason.Portable
  | evaluate others dependencies tenantId c _ =>
    others.Portable ∧ (∀ d ∈ dependencies, d.Documented ∧ d.toDoc.Portable) ∧ tenantId.IsText ∧ c.Portable
  | setStrategy doc => doc.Portable ∧ ∀ id, doc.item "tenant_id" = .ok id → id.IsText

end Call

/-- The answers to some calls, one after the other, each with all that has been told by then. -/
def serve : List Call → GateState → List (Reading Value × List (String × Payload))
  | [], _ => []
  | c :: calls, s =>
    let (answer, s') := outcome c.answer s
    (answer, s'.events.map Event.told) :: serve calls s'

/-! ## One call -/

namespace Gate

section Documents

variable {α : Type} [Stored α] [Mirrored α]

/-- Records that are told apart by what documents leave out have one document. -/
theorem agree_docOf {x y : Gate α} (h : Agree Gives x y) : Agree (Both fun _ => True) (docOf x) (docOf y) := by
  refine h.bind fun a b hab => ?_
  rw [hab.same.doc]
  exact .ofReading fun _ _ => trivial

theorem agree_docsOf {x y : Gate (List α)} (h : Agree ReadsAll x y) : Agree (Both fun _ => True) (docsOf x) (docsOf y) := by
  refine h.bind fun as bs hab => ?_
  obtain ⟨rfl, -⟩ := hab
  have hdocs : (as.map Mirrored.asRead).mapM Stored.toDoc = as.mapM Stored.toDoc := by
    rw [List.mapM_map]
    exact congrArg (as.mapM ·) (funext fun a => (Mirrored.same_asRead a).doc)
  rw [hdocs]
  exact (Agree.ofReading (F := fun _ => True) fun _ _ => trivial).bind fun docs docs' h => .pure ⟨by rw [h.1], trivial⟩

theorem agree_gives {x y : Gate α} (h : Agree (Both Mirrored.Kept) x y) : Agree Gives x y :=
  h.mono fun _ _ h => ⟨h.2, .inl h.1⟩

end Documents

theorem agree_setClock {now : Timestamp} (hnow : now.Fixed) :
    Agree (fun _ _ => True) (modify fun s => { s with now } : Gate Unit) (modify fun s => { s with now }) := fun _ _ hst =>
  .returned trivial { hst with now := rfl, fixed := hnow, numbered := ⟨hst.numbered.unlogged, hst.numbered.given⟩ }

theorem kept_document {doc : Value} (h : Call.PolicyDoc doc) : (PolicySource.document doc).Kept := by
  intro now p hnow hp
  cases doc with
  | scalar s => cases hp
  | list items => cases hp
  | map entries =>
    refine ⟨Policy.storable_ofDoc h.1.storable hnow hp, h.2 p.id ?_⟩
    obtain ⟨id, hid, hp⟩ := Reading.bind_eq_ok.mp hp
    simp only [Reading.bind_eq_ok, Reading.pure_eq_ok] at hp
    repeat obtain ⟨_, _, hp⟩ := hp
    exact hid

/-- **A call is answered alike**, and twins stay twins. -/
theorem agree_answer {c : Call} (h : c.Parsed) : Agree (Both fun _ => True) c.answer c.answer := by
  have hnull : Agree (Both fun _ => True) (pure Value.null : Gate Value) (pure .null) := .pure ⟨rfl, trivial⟩
  cases c with
  | clock now => exact (agree_setClock h).bind fun _ _ _ => hnull
  | create tenantId doc createdBy => exact agree_docOf (agree_gives (agree_createPolicy (kept_document h.2.1) h.1 h.2.2.storable))
  | fromTemplate tenantId templateId name scope policyId createdBy =>
    obtain ⟨htenant, hname, hscope, hid, hby⟩ := h
    refine (Agree.ofReading (F := fun o => ∀ s, o = some s → s.toDoc.Storable) fun o ho s hs => ?_).bind fun o o' ho => ?_
    · subst hs
      cases scope with
      | none => cases ho
      | some doc =>
        obtain ⟨s', hs', heq⟩ := Reading.map_eq_ok.mp ho
        cases heq
        exact PolicyScope.storable_ofDoc (hscope doc rfl).storable hs'
    · obtain ⟨rfl, ho⟩ := ho
      exact agree_docOf (agree_gives (agree_createFromTemplate
        { name := hname.storable, scope := ho, edits := rfl, policyId := hid } htenant hby.storable))
  | ensureTemplate tenantId templateId createdBy => exact agree_docOf (agree_ensureTemplate h.1 h.2.storable)
  | apply tenantId doc appliedBy => exact agree_docOf (agree_applyPolicy (kept_document h.2.1) h.1 h.2.2.storable)
  | update policyId updates updatedBy =>
    obtain ⟨hid, ⟨hupdates, hdescribed⟩, hby⟩ := h
    exact agree_docOf (agree_updateWith hid (fun u => PolicyUpdate.kept_ofDoc hupdates.storable hdescribed) hby.storable)
  | delete policyId => exact (agree_deletePolicy h).bind fun _ _ _ => hnull
  | policy policyId => exact agree_docOf ((agree_getPolicy h).mono fun _ _ => Reads.gives)
  | policies tenantId => exact agree_docsOf (agree_policiesOf h)
  | template templateId =>
    refine (agree_getTemplate templateId).bind fun t t' ht => ?_
    obtain ⟨rfl, -⟩ := ht
    exact .ofReading fun _ _ => trivial
  | addException policyId doc =>
    refine agree_clock.bind fun now now' hnow => ?_
    obtain ⟨rfl, hnow⟩ := hnow
    refine (Agree.ofReading fun e => PolicyException.kept_ofDoc h.2.storable hnow).bind fun e e' he => ?_
    obtain ⟨rfl, he⟩ := he
    exact (agree_addException h.1 he).bind fun g g' hg => .pure ⟨by rw [hg.1], trivial⟩
  | revokeException policyId exceptionId revokedBy =>
    exact (agree_revokeException h).bind fun e e' he => .pure ⟨by rw [he.1], trivial⟩
  | expireExceptions now => exact (agree_expireExceptions now).bind fun n n' hn => .pure ⟨by rw [hn.1], trivial⟩
  | violation violationId => exact agree_docOf ((agree_getViolation h).mono fun _ _ => Reads.gives)
  | violations tenantId status => exact agree_docsOf (agree_violationsOf h status)
  | resolve violationId resolution resolvedBy =>
    exact agree_docOf ((agree_resolve h.1 h.2.1.storable h.2.2.storable).mono fun _ _ => Reads.gives)
  | acknowledge violationId acknowledgedBy assignedTo =>
    exact agree_docOf ((agree_acknowledge h.1 h.2.1.storable h.2.2.storable).mono fun _ _ => Reads.gives)
  | suppress violationId reason suppressedBy =>
    exact agree_docOf ((agree_suppress h.1 h.2.storable).mono fun _ _ => Reads.gives)
  | markFalsePositive violationId reason markedBy =>
    exact agree_docOf ((agree_markFalsePositive h.1 h.2.1.storable h.2.2.storable).mono fun _ _ => Reads.gives)
  | evaluate others dependencies tenantId c stop =>
    obtain ⟨hothers, hds, htenant, hc⟩ := h
    have hstorable : ∀ d ∈ dependencies, d.Documented ∧ d.toDoc.Storable := fun d hd => ⟨(hds d hd).1, (hds d hd).2.storable⟩
    exact agree_docOf ((agree_evaluatePolicies hothers.storable hstorable hc.storable htenant).mono fun _ _ => Reads.gives)
  | evaluation evaluationId =>
    refine (agree_evaluationResult h).bind fun o o' ho => ?_
    obtain ⟨rfl, -⟩ := ho
    cases o with
    | none => exact hnull
    | some r =>
      change Agree _ (ofReading r.toDoc) (ofReading r.asRead.toDoc)
      rw [EnforcementResult.toDoc_asRead]
      exact .ofReading fun _ _ => trivial
  | metrics tenantId => exact agree_policyMetrics h
  | setStrategy doc =>
    refine (Agree.ofReading (F := UpdateStrategy.Kept) fun s hs => ?_).bind fun s s' hs => ?_
    · refine { tenantId := h.2 s.tenantId ?_, storable := UpdateStrategy.storable_ofDoc h.1.storable hs }
      obtain ⟨tenantId, htenant, hs⟩ := Reading.bind_eq_ok.mp hs
      simp only [Reading.bind_eq_ok, Reading.pure_eq_ok] at hs
      repeat obtain ⟨_, _, hs⟩ := hs
      exact htenant
    · obtain ⟨rfl, hs⟩ := hs
      exact (agree_setStrategy hs).bind fun _ _ _ => hnull
  | strategy tenantId => exact (agree_strategyOf h).bind fun s s' hs => .pure ⟨by rw [hs.1], trivial⟩

end Gate

/-! ## Sessions -/

/-- Calls to twins are answered alike, and what has been told after each of them is the same. -/
theorem serve_twins : ∀ {calls : List Call} {s t : GateState}, (∀ c ∈ calls, c.Parsed) → Twins s t → serve calls s = serve calls t
  | [], _, _, _, _ => rfl
  | c :: calls, s, t, h, hst => by
    obtain ⟨hc, hcalls⟩ := List.forall_mem_cons.mp h
    have halike := agree_answer hc s t hst
    unfold serve
    cases hx : outcome c.answer s with | mk a s' => ?_
    cases hy : outcome c.answer t with | mk b t' => ?_
    rw [hx, hy] at halike
    have hsame : a = b ∧ Twins s' t' := by
      cases halike with
      | returned related twins => exact ⟨congrArg Except.ok related.1.symm, twins⟩
      | refused twins => exact ⟨rfl, twins⟩
    obtain ⟨rfl, hst'⟩ := hsame
    dsimp only
    rw [serve_twins hcalls hst', hst'.events]

/-- **The service is the same over both backends.** From empty stores, under one clock and one sequence of ids, calls
whose ids and tenants are texts and whose documents are portable are given the same answers and the same faults, and
the same events are told, whether the stores are in memory or hold documents. -/
theorem serve_start_eq {calls : List Call} (h : ∀ c ∈ calls, c.Parsed) {now : Timestamp} (hnow : now.Fixed) (ids : Ids) :
    serve calls (.start .memory now ids) = serve calls (.start .documents now ids) :=
  serve_twins h (.start hnow ids)

namespace Sample

/-- The document of a policy with one rule, under an id. -/
def policyDoc (id : Value) : Value :=
  .fields [
    ("id", id),
    ("name", "P"),
    ("rules", .list [.fields [
      ("id", "r"),
      ("name", "R"),
      ("conditions", .list [.fields [("field", "x"), ("operator", "not_exists")]]),
      ("actions", .list [.fields [("type", "WARN")]])]])]

end Sample

/-- A policy is created under its id and looked up, a dependency is evaluated, and what was found is listed. -/
theorem serve_start_eq_found :
    let calls : List Call := [.create "t" (Sample.policyDoc "p") "u", .policy "p",
      .evaluate .none [Sample.dependency "lib"] "t" .empty (fun _ _ => false), .violations "t" none]
    serve calls (.start .memory Sample.moment {}) = serve calls (.start .documents Sample.moment {}) := by
  have hdoc : Call.PolicyDoc (Sample.policyDoc "p") := by
    refine ⟨⟨by simp [Sample.policyDoc], by decide +kernel, by decide +kernel⟩, fun id hid _ => ?_⟩
    cases hid
    exact ⟨"p", rfl⟩
  have hothers : Collaborators.none.Portable := fun _ h => nomatch h
  have hdependency : ∀ d ∈ [Sample.dependency "lib"], d.Documented ∧ d.toDoc.Portable :=
    List.forall_mem_singleton.mpr ⟨.inl rfl, by simp [Dependency.toDoc, Sample.dependency, Value.storable_map],
      by decide +kernel, by decide +kernel⟩
  have hcontext : EvaluationContext.empty.Portable := {
    place := ⟨by simp [EvaluationContext.toDoc, EvaluationContext.empty], by decide +kernel, by decide +kernel⟩
    cves := by simp [EvaluationContext.empty]
    scores := by simp [EvaluationContext.empty]
    now := by simp [EvaluationContext.empty] }
  refine serve_start_eq (fun c hc => ?_) (by decide) {}
  simp only [List.mem_cons, List.not_mem_nil, or_false] at hc
  rcases hc with rfl | rfl | rfl | rfl
  · exact And.intro ⟨"t", rfl⟩ ⟨hdoc, Value.Portable.str "u"⟩
  · exact Exists.intro "p" rfl
  · exact And.intro hothers ⟨hdependency, ⟨"t", rfl⟩, hcontext⟩
  · exact Exists.intro "t" rfl

/-- A policy is created under the number 1, and looked up under its text: the document, which is portable, is found in
a row, and no policy is found in memory. -/
theorem serve_start_ne :
    (Sample.policyDoc (.int 1)).Portable ∧
      serve [.create "t" (Sample.policyDoc (.int 1)) "u", .policy "1"] (.start .memory Sample.moment {}) ≠
        serve [.create "t" (Sample.policyDoc (.int 1)) "u", .policy "1"] (.start .documents Sample.moment {}) := by
  refine ⟨⟨by simp [Sample.policyDoc], by decide +kernel, by decide +kernel⟩, fun heq => ?_⟩
  have hfound := congrArg (List.map fun a => a.1.isOk) heq
  revert hfound
  decide +kernel

end SupplyGate
