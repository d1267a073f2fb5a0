import SupplyGate.Proofs.Risk.Requests
import SupplyGate.Proofs.Sample
import SupplyGate.Proofs.Session.Writing

/-!
# Runs of both services

A policy service and a risk service over the same stores: an `Operation` is a request to one of them, and
`Operated` are the states that operations lead to from empty stores in memory. The policies on record are
upheld there, as requests to the risk service leave them alone; and every assessment on record is sound, as
requests to the policy service leave these alone (`Operated.served`).

So whatever business contexts and criteria were set, and whatever was assessed and assessed again, every assessment on
record is sound (`assessments_sound`). A later assessment only puts its links into the one that it supersedes.
-/

namespace SupplyGate

open Gate

/-- A request to the policy service, or to the risk service. -/
inductive Operation where
  | policy (r : Request)
  | risk (r : RiskRequest)

/-- What an operation does. -/
def Operation.run (scoring : Scoring) : Operation → Gate Unit
  | policy r => r.run
  | risk r => r.run scoring

/-- The states that operations lead to, from empty stores. -/
inductive Operated (scoring : Scoring) : GateState → Prop where
  | start (now : Timestamp) (ids : Ids) : Operated scoring (.start .memory now ids)
  | operation {s : GateState} (o : Operation) (reached : Operated scoring s) :
    Operated scoring (outcome (o.run scoring) s).2

/-- Every assessment stands under the key of its id and is sound. -/
def Assessed (days : Int) (as : MemoryStore Assessment) : Prop :=
  as.Every fun k a => MemoryStore.keyOf a = .ok k ∧ a.Sound days

theorem Assessed.keyed {days : Int} {as : MemoryStore Assessment} (h : Assessed days as) :
    as.Every fun k a => MemoryStore.keyOf a = .ok k := fun e he => (h e he).1

/-- What both services keep. -/
structure Served (scoring : Scoring) (s : GateState) : Prop where
  policies : ∃ m, Still m s ∧ Upheld m
  risk : ∃ as cs ks, AtRisk as cs ks s ∧ Assessed scoring.validityDays as

namespace Gate

variable {as : MemoryStore Assessment} {cs : MemoryStore BusinessContext} {ks : MemoryStore Criteria}
  {scoring : Scoring} {s t : GateState}

/-- Requests to the policy service leave the stores of the risk service alone. -/
theorem atRisk_law (as : MemoryStore Assessment) (cs : MemoryStore BusinessContext) (ks : MemoryStore Criteria) :
    Law (AtRisk as cs ks) (fun _ => True) (fun _ => True) where
  recorded _ _ _ h _ := ⟨h.assessments, h.contexts, h.criteria, h.unlogged⟩
  numbered _ _ h := ⟨h.assessments, h.contexts, h.criteria, h.unlogged⟩
  published _ _ h := ⟨h.assessments, h.contexts, h.criteria, h.unlogged⟩
  called _ _ h := ⟨h.assessments, h.contexts, h.criteria, h.unlogged⟩
  checked _ _ := trivial
  alike _ _ _ _ := trivial
  stored _ _ := trivial
  found _ _ _ _ _ := trivial
  listed _ _ _ _ _ _ _ := trivial
  every _ _ _ _ _ _ := trivial
  added _ _ _ h _ _ := ⟨h.assessments, h.contexts, h.criteria, h.unlogged⟩
  put _ _ _ h _ _ := ⟨h.assessments, h.contexts, h.criteria, h.unlogged⟩
  deleted _ _ _ _ h _ := ⟨h.assessments, h.contexts, h.criteria, h.unlogged⟩
  triaged _ _ _ _ _ h _ _ _ := ⟨h.assessments, h.contexts, h.criteria, h.unlogged⟩
  detected _ _ _ _ _ _ _ _ := keeps_detect_of
    (fun _ _ h => ⟨h.assessments, h.contexts, h.criteria, h.unlogged⟩)
    (fun _ _ h => ⟨h.assessments, h.contexts, h.criteria, h.unlogged⟩)
    fun _ _ h => ⟨h.assessments, h.contexts, h.criteria, h.unlogged⟩
  strategy _ _ _ h _ := ⟨h.assessments, h.contexts, h.criteria, h.unlogged⟩
  clocked _ _ h := ⟨h.assessments, h.contexts, h.criteria, h.unlogged⟩

theorem served_took (h : Served scoring s) (ht : Took s t) : Served scoring t := by
  obtain ⟨m, hm, hupheld⟩ := h.policies
  obtain ⟨as, cs, ks, hrisk, hassessed⟩ := h.risk
  refine ⟨⟨m, ?_, hupheld⟩, as, cs, ks, hrisk.took ht, hassessed⟩
  rw [Still, ht.eq]
  exact hm

/-- What a request to the risk service leaves behind, answered or refused, has what both services keep. -/
theorem served_risk (h : Served scoring s) (r : RiskRequest) : Served scoring (outcome (r.run scoring) s).2 := by
  obtain ⟨as, cs, ks, hrisk, hassessed⟩ := h.risk
  have hstored : ∀ {u as'}, Took s u → Assessed scoring.validityDays as' → ∀ events,
      Served scoring { u with assessments := .memory as', events } := by
    intro u as' hu has' events
    have hat := hrisk.took hu
    exact ⟨(served_took h hu).policies, as', cs, ks, ⟨rfl, hat.contexts, hat.criteria, hat.unlogged⟩, has'⟩
  cases r with
  | setContext c =>
    change Served scoring (outcome (setContext c) s).2
    rw [outcome_setContext hrisk]
    split
    · exact ⟨h.policies, _, _, _, ⟨hrisk.assessments, rfl, hrisk.criteria, hrisk.unlogged⟩, hassessed⟩
    · exact ⟨h.policies, _, _, _, ⟨hrisk.assessments, rfl, hrisk.criteria, hrisk.unlogged⟩, hassessed⟩
    · exact h
  | setCriteria tenantId overrides =>
    have hsettles : Settles (· = s) (setCriteria tenantId overrides) (fun _ => Served scoring) (Served scoring) := by
      refine (settles_setCriteria hrisk tenantId overrides).mono ?_ fun _ ht => ht ▸ h
      rintro c _ ⟨k, rfl, -⟩
      exact ⟨h.policies, _, _, _, ⟨hrisk.assessments, hrisk.contexts, rfl, hrisk.unlogged⟩, hassessed⟩
    exact hsettles.discard.ends rfl (fun _ _ ht => ht) fun _ ht => ht
  | assess d vs tenantId given assessedBy =>
    have hsettles : Settles (Took s) (enterAssessment scoring d vs tenantId given assessedBy)
        (fun _ => Served scoring) (Served scoring) := by
      refine (settles_enterAssessment hrisk scoring d vs tenantId given assessedBy).mono ?_ fun t ht => served_took h ht
      rintro a _ ⟨k, u, rfl, hu, ha, hk, -⟩
      exact hstored hu (hassessed.store ⟨hk, ha⟩) _
    refine (RiskRequest.tells scoring (.assess d vs tenantId given assessedBy) s hrisk.unlogged).ends ?_ ?_
    · rintro t events ⟨⟨m, hm, hupheld⟩, as, cs, ks, ht, has⟩
      exact ⟨⟨m, hm, hupheld⟩, as, cs, ks, ⟨ht.assessments, ht.contexts, ht.criteria, ht.unlogged⟩, has⟩
    · exact Settles.ends hsettles.returning (.refl s) (fun _ _ ht => ht) fun _ ht => ht
  | reassess assessmentId d vs assessedBy given =>
    have hsettles : Settles (Took s) (reassess scoring assessmentId d vs assessedBy given)
        (fun _ => Served scoring) (Served scoring) := by
      have hreassess := settles_reassess hrisk hassessed.keyed scoring assessmentId d vs assessedBy given
      refine hreassess.mono ?_ fun t ht => served_took h ht
      rintro a _ ⟨k, l, previous, u, rfl, hu, ha, hk, -, hprevious, -⟩
      obtain ⟨hl, hsound⟩ := hassessed.lookup hprevious
      refine hstored hu ?_ _
      exact (hassessed.store ⟨hk, ha⟩).store ⟨hl, hsound.linked previous.supersedes a.id a.assessedAt⟩
    exact hsettles.discard.ends (.refl s) (fun _ _ ht => ht) fun _ ht => ht

end Gate

/-- Wherever operations lead, both services have kept what they keep. -/
theorem Operated.served {scoring : Scoring} {s : GateState} (h : Operated scoring s) : Served scoring s := by
  induction h with
  | start now ids => exact ⟨⟨.empty, rfl, .empty⟩, .empty, .empty, .empty, ⟨rfl, rfl, rfl, rfl⟩, .empty⟩
  | @operation s o _ ih =>
    cases o with
    | policy r =>
      obtain ⟨m, hm, hupheld⟩ := ih.policies
      obtain ⟨as, cs, ks, hrisk, hassessed⟩ := ih.risk
      obtain ⟨m', hm', hupheld', -⟩ := r.moves hupheld hm
      have hlaw := (atRisk_law as cs ks).keeps_request r fun _ _ _ _ _ _ => trivial
      exact ⟨⟨m', hm', hupheld'⟩, as, cs, ks, (hlaw s hrisk).1, hassessed⟩
    | risk r => exact served_risk ih r

/-- **Assessments on record are sound.** Wherever operations lead, each assessment on record has a whole overall
score of `0 … 100` that its level spans and a priority no lower, of at most `100`; it is valid for as many days
as the service is configured for; each of its factors is weighted, and one of them rates each of its
vulnerabilities, in order; and its mitigations are those that its vulnerabilities and level ask for, by
ascending priority numbers, with monitoring once and at the end. -/
theorem assessments_sound {scoring : Scoring} {s : GateState} (h : Operated scoring s) :
    ∃ as, s.assessments = .memory as ∧ ∀ k a, (k, a) ∈ as.records → a.Sound scoring.validityDays := by
  obtain ⟨as, _, _, hrisk, hassessed⟩ := h.served.risk
  exact ⟨as, hrisk.assessments, fun k a ha => (hassessed (k, a) ha).2⟩

section Sample

open Sample

/-- A vulnerability that an update would remove. -/
def fixable : Vulnerability where
  id := "CVE-1"
  severity := .high
  cve := "CVE-1"
  cvssScore := none
  exploitability := .null
  fixAvailable := true
  description := "Weak default Configuration"
  title := ""
  cwe := []
  dataSource := ""
  fixedVersions := []

/-- A service that assessed a dependency, and assessed it again without the vulnerability. -/
def reassessed : GateState :=
  (outcome (Operation.run .standard (.risk (.reassess "assess_000000000001" none (some []) "u" none)))
    (outcome (Operation.run .standard (.risk (.assess (dependency "lib") [fixable] "t" none "u"))) gate).2).2

theorem reassessed_operated : Operated .standard reassessed := .operation _ (.operation _ (.start moment {}))

/-- What the service has assessed is sound, for thirty days: the first assessment, and the one that superseded it. -/
theorem assessments_sound_reassessed : Operated .standard reassessed ∧
    ∃ as, reassessed.assessments = .memory as ∧ as.records.length = 2 ∧
      ∀ k a, (k, a) ∈ as.records → a.Sound 30 := by
  obtain ⟨as, has, hsound⟩ := assessments_sound reassessed_operated
  refine ⟨reassessed_operated, as, has, ?_, hsound⟩
  have hcount : (match reassessed.assessments with | .memory m => m.records.length | .documents _ => 0) = 2 := by
    decide +kernel
  rwa [has] at hcount

end Sample

end SupplyGate
