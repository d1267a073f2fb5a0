import SupplyGate.Proofs.Gate.Endings
import SupplyGate.Proofs.Session.Applying

/-!
# Policies that a tenant has from templates

The policy that a tenant has from a template stands under an id made from the names of both. What is found
there is returned, whoever put it there. So the policy belongs to the tenant, and takes part in its
evaluations, just when no policy of another tenant stood under that id (`ensured_iff`).
-/

namespace SupplyGate

open Gate

/-- The tenant of the policy with an id, or the given one if there is none. -/
def MemoryStore.ownerOf (m : MemoryStore Policy) (id tenantId : Value) : Value :=
  match m.get id with
  | .ok (some p) => p.tenantId
  | _ => tenantId

namespace Gate

section Steps

variable {s t : GateState} {m : MemoryStore Policy} {tenantId templateId createdBy id : Value} {p : Policy}

/-- A template gives a policy with the id that was chosen, if one was. -/
theorem yields_draftFromTemplate (choice : TemplateChoice) (createdBy : Value) :
    Yields (Still m) (draftFromTemplate tenantId templateId choice createdBy)
      (fun asked => StandsFor choice.policyId asked.id) := by
  unfold draftFromTemplate
  refine .bind (PolicyWork.keeps_getTemplate (I := Still m) templateId) fun template _ => .bind keeps_clock fun now _ => ?_
  refine .bind (Keeps.mapM fun r _ => keeps_templateRule _ r) fun rules _ => ?_
  refine .bind (yields_orFresh (still_runLaw m).toRoutine .policy choice.policyId) fun id hid => ?_
  dsimp only
  split
  · exact .bind keeps_pure fun _ _ => .pure hid
  · exact .bind keeps_throw fun _ _ => .pure hid

/-- A creation from a template creates a policy under the id that was chosen, if one was. -/
theorem of_returns_createFromTemplate {choice : TemplateChoice} (hs : Still m s)
    (h : Returns (createFromTemplate tenantId templateId choice createdBy) s p t) :
    p.tenantId = tenantId ∧ StandsFor choice.policyId p.id ∧
      ∃ k, MemoryStore.keyOf p = .ok k ∧ m.lookup k = none ∧ Still (m.store k p) t := by
  have hcreate : ∀ {asked : Policy} {s' : GateState}, Still m s' → StandsFor choice.policyId asked.id →
      Returns (do
        let stored ← createPolicy tenantId (.record asked) createdBy
        publish (.policyCreatedFromTemplate tenantId templateId stored.id)
        return stored) s' p t →
      p.tenantId = tenantId ∧ StandsFor choice.policyId p.id ∧
        ∃ k, MemoryStore.keyOf p = .ok k ∧ m.lookup k = none ∧ Still (m.store k p) t := by
    intro asked s' hs' hid h
    obtain ⟨stored, s₁, hstored, h₁⟩ := returns_bind.mp h
    obtain ⟨hcreated, -, k, hk, hfree, hs₁⟩ := of_returns_createPolicy hs' hstored
    obtain ⟨_, s₂, hpublish, h₂⟩ := returns_bind.mp h₁
    obtain ⟨rfl, rfl⟩ := returns_pure.mp h₂
    refine ⟨by rw [hcreated.eq], hcreated.id.kept hid.truthy ▸ hid, k, hk, hfree, ?_⟩
    exact (((still_runLaw _).keeps_publish _).returns hs₁ hpublish).1
  obtain ⟨asked, s₁, hdraft, h₁⟩ := returns_bind.mp h
  obtain ⟨hs₁, hid⟩ := (yields_draftFromTemplate choice createdBy).returns hs hdraft
  exact hcreate hs₁ hid h₁

theorem truthy_templatePolicyId (h : templatePolicyId tenantId templateId = .ok id) : id.truthy = true := by
  obtain ⟨template, -, h⟩ := Reading.bind_eq_ok.mp h
  obtain ⟨tenant, -, h⟩ := Reading.bind_eq_ok.mp h
  obtain rfl := Reading.pure_eq_ok.mp h
  have hne : "policy_" ++ template ++ "_" ++ tenant ≠ "" := by
    intro h
    have hchars := congrArg String.toList h
    simp at hchars
  exact bne_iff_ne.mpr hne

/-- What is found under the id is returned, and otherwise a policy is created there. -/
theorem returns_ensureTemplate (hs : Still m s) :
    Returns (ensureTemplate tenantId templateId createdBy) s p t ↔
      ∃ id, templatePolicyId tenantId templateId = .ok id ∧
        ((m.get id = .ok (some p) ∧ t = s) ∨
          m.get id = .ok none ∧
            Returns (createFromTemplate tenantId templateId { TemplateChoice.standard with policyId := id } createdBy)
              s p t) := by
  simp only [ensureTemplate, returns_bind, liftM_eq_ofReading, returns_ofReading]
  constructor
  · rintro ⟨id, _, ⟨hid, rfl⟩, o, _, hfind, h⟩
    refine ⟨id, hid, ?_⟩
    obtain ⟨ho, rfl⟩ := (returns_find hs).mp hfind
    cases o with
    | none => exact .inr ⟨ho, h⟩
    | some q =>
      obtain ⟨rfl, rfl⟩ := returns_pure.mp h
      exact .inl ⟨ho, rfl⟩
  · rintro ⟨id, hid, ⟨ho, rfl⟩ | ⟨ho, h⟩⟩
    · exact ⟨id, _, ⟨hid, rfl⟩, _, _, (returns_find hs).mpr ⟨ho, rfl⟩, returns_pure.mpr ⟨rfl, rfl⟩⟩
    · exact ⟨id, _, ⟨hid, rfl⟩, _, _, (returns_find hs).mpr ⟨ho, rfl⟩, h⟩

/-- The policy is on record then, and belongs to whom the id belonged before. -/
theorem of_returns_ensureTemplate (hs : Still m s)
    (h : Returns (ensureTemplate tenantId templateId createdBy) s p t) :
    ∃ id, templatePolicyId tenantId templateId = .ok id ∧ p.tenantId = m.ownerOf id tenantId ∧
      ∃ m', Still m' t ∧ m'.get id = .ok (some p) := by
  obtain ⟨id, hof, h⟩ := (returns_ensureTemplate hs).mp h
  refine ⟨id, hof, ?_⟩
  unfold MemoryStore.ownerOf
  rcases h with ⟨hp, rfl⟩ | ⟨hnone, h⟩
  · rw [hp]
    exact ⟨rfl, m, hs, hp⟩
  · obtain ⟨htenant, hid, k, hk, -, ht⟩ := of_returns_createFromTemplate hs h
    rw [hnone]
    refine ⟨htenant, _, ht, MemoryStore.get_ok.mpr ⟨k, ?_, (MemoryStore.lookup_store_self k p).symm⟩⟩
    rw [← hk]
    exact congrArg Value.asKey (hid.kept (truthy_templatePolicyId hof)).symm

/-- A policy on record is listed for a tenant just when it belongs to it. -/
theorem mem_policiesOf {ranked : List Policy} (hs : Still m s) (hp : m.get id = .ok (some p))
    (hr : Returns (policiesOf tenantId) s ranked t) : p ∈ ranked ↔ p.tenantId.same tenantId = true := by
  obtain ⟨⟨stored, hstored, hranked⟩, -⟩ := returns_policiesOf.mp hr
  rw [show s.policies = .memory m from hs] at hstored
  obtain rfl : m.ofTenant tenantId = stored := Except.ok.inj hstored
  obtain ⟨k, -, hk⟩ := MemoryStore.get_ok.mp hp
  have hmem : p ∈ m.records.map (·.2) := List.mem_map_of_mem (MemoryStore.mem_of_lookup hk.symm)
  rw [(sortDescending_perm hranked).mem_iff, MemoryStore.ofTenant, List.mem_filter]
  exact and_iff_right hmem

end Steps

end Gate

/-- **Whose policy a tenant gets from a template.** Wherever requests lead, what is returned as the policy of a
tenant from a template belongs to the tenant and is listed among its policies just when these can be put in
order and the id of the policy did not belong to another tenant. In any case, asking again returns the same
policy and leaves everything as it is. -/
theorem ensured_iff {allowed : Request → Prop} {s t : GateState} {tenantId templateId createdBy : Value} {p : Policy}
    (h : Reachable allowed s) (hr : Returns (ensureTemplate tenantId templateId createdBy) s p t) :
    ∃ m id, s.policies = .memory m ∧ templatePolicyId tenantId templateId = .ok id ∧
      ((p.tenantId.same tenantId = true ∧ ∃ ranked, Returns (policiesOf tenantId) t ranked t ∧ p ∈ ranked) ↔
        (m.ownerOf id tenantId).same tenantId = true ∧ ∃ ranked, rankedOf t tenantId = .ok ranked) ∧
      ∀ again, Returns (ensureTemplate tenantId templateId again) t p t := by
  obtain ⟨m, hs, hm⟩ := h.upheld
  obtain ⟨id, hid, howner, m', ht, hp⟩ := of_returns_ensureTemplate hs hr
  have hranked : ∀ {ranked}, Returns (policiesOf tenantId) t ranked t ↔ rankedOf t tenantId = .ok ranked := by
    intro ranked
    rw [Returns, outcome_policiesOf, Prod.mk.injEq]
    exact and_iff_left rfl
  refine ⟨m, id, hs, hid, ?_, fun again => (returns_ensureTemplate ht).mpr ⟨id, hid, .inl ⟨hp, rfl⟩⟩⟩
  rw [← howner]
  refine and_congr_right fun htenant => exists_congr fun ranked => ?_
  rw [hranked]
  exact and_iff_left_of_imp fun h => (mem_policiesOf ht hp (hranked.mpr h)).mpr htenant

section Sample

open Sample

/-- The service after another tenant created a policy under the id of the one from the template. -/
def occupied : GateState :=
  (outcome (Request.createPolicy "other" (.record { plain with id := "policy_security-standard_t" }) "u").run gate).2

theorem occupied_reachable : Reachable Request.ofService occupied := .request (.start moment {}) trivial

/-- Where the id is free, the tenant has the policy from then on. -/
theorem ensured_iff_free :
    Reachable Request.ofService gate ∧ ∃ p t, Returns (ensureTemplate "t" "security-standard" "u") gate p t ∧
      p.tenantId.same "t" = true ∧ Returns (ensureTemplate "t" "security-standard" "u") t p t := by
  let ensured := outcome (ensureTemplate "t" "security-standard" "u") gate
  obtain ⟨p, hp⟩ : ∃ p, ensured.1 = .ok p := ⟨_, rfl⟩
  have hr : Returns (ensureTemplate "t" "security-standard" "u") gate p ensured.2 := Prod.ext hp rfl
  obtain ⟨m, id, hm, hid, hiff, hagain⟩ := ensured_iff gate_reachable hr
  obtain rfl : Value.str "policy_security-standard_t" = id := Except.ok.inj hid
  obtain rfl : MemoryStore.empty = m := Store.memory.inj hm
  have hlisted : rankedOf ensured.2 "t" = .ok [p] := by
    cases hp
    exact sortDescending_singleton (·.priority) _
  exact ⟨gate_reachable, p, _, hr, (hiff.mpr ⟨rfl, _, hlisted⟩).1, hagain "u"⟩

/-- Where the id belongs to another tenant, that tenant's policy is returned, and the tenant has none. -/
theorem occupied_not_ensured :
    Reachable Request.ofService occupied ∧ ∃ p, Returns (ensureTemplate "t" "security-standard" "u") occupied p occupied ∧
      p.tenantId = "other" ∧ Returns (policiesOf "t") occupied [] occupied := by
  refine ⟨occupied_reachable, { plain with id := "policy_security-standard_t", tenantId := "other", createdBy := "u" }, rfl,
    rfl, returns_policiesOf.mpr ⟨⟨[], rfl, rfl⟩, rfl⟩⟩

end Sample

end SupplyGate
