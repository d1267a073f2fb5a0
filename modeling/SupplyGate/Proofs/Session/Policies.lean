import SupplyGate.Proofs.Session.Evaluable
import SupplyGate.Proofs.Session.Moves

/-!
# Policies over runs of requests

Every policy on record is valid, and stands under the key of its id, wherever requests lead. And until a
request deletes it, each later policy under its key is a revision of it: it has its id, its tenant and
its origin, and its change log goes on from there (`policies_kept`).
-/

namespace SupplyGate

open Gate

/-! ## What moves do -/

namespace Policy

variable {p q asked : Policy}

/-- A policy is valid as it is created. -/
theorem Created.valid {tenantId createdBy : Value} {now : Timestamp}
    (h : asked.Created tenantId createdBy now p) : p.Valid where
  problems := by
    have hname : p.name = asked.name := by rw [h.eq]
    rw [Validation.problems_congr hname h.rules]
    exact Validation.check_ok.mp h.sound
  id := h.id.truthy
  rules := h.rules.truthy fun _ _ hid => hid.truthy

theorem Revises.revised (h : p.Revises q) : p.Revised q := by
  cases h with
  | updated named result sound => exact (assembled_ok result).1
  | excepted exceptions updatedAt => exact ⟨rfl, rfl, rfl, rfl, List.prefix_refl _⟩

theorem Revises.valid (h : p.Revises q) (hp : p.Valid) : q.Valid := by
  cases h with
  | @updated _ u rules now updatedBy named result sound =>
    obtain ⟨hrevised, hrules⟩ := assembled_ok result
    refine ⟨Validation.check_ok.mp sound, hrevised.id ▸ hp.id, ?_⟩
    rw [hrules]
    cases rules with
    | none => exact hp.rules
    | some rules => exact named rules rfl
  | excepted exceptions updatedAt => exact hp.congr rfl rfl rfl

end Policy

/-- The policies on record are valid, and stand under the keys of their ids, no two of them under one. -/
structure Upheld (m : MemoryStore Policy) : Prop where
  keyed : Keyed m
  distinct : m.Distinct
  valid : m.Every fun _ p => p.Valid

theorem Upheld.empty : Upheld .empty := ⟨.empty, .empty, .empty⟩

section Moves

variable {deletes : Key → Prop} {m m' : MemoryStore Policy}

theorem Move.upheld (h : Move deletes m m') (hm : Upheld m) : Upheld m' := by
  cases h with
  | create created keyed free =>
    exact ⟨hm.keyed.store keyed, hm.distinct.store _ _, hm.valid.store created.valid⟩
  | revise here revises =>
    have hkey := (congrArg Value.asKey revises.revised.id).trans (hm.keyed.lookup here)
    exact ⟨hm.keyed.store hkey, hm.distinct.store _ _, hm.valid.store (revises.valid (hm.valid.lookup here))⟩
  | delete deleted =>
    refine ⟨hm.keyed.erase _, ?_, hm.valid.erase _⟩
    exact hm.distinct.sublist (List.filter_sublist.map _)

theorem Moves.upheld (h : Moves deletes m m') (hm : Upheld m) : Upheld m' := by
  induction h with
  | refl => exact hm
  | tail _ hmove ih => exact hmove.upheld ih

/-- Under a key that is not deleted, a policy is only ever revised. -/
theorem Move.lookup (h : Move deletes m m') {k : Key} {p : Policy} (hk : ¬ deletes k) (hp : m.lookup k = some p) :
    ∃ q, m'.lookup k = some q ∧ p.Revised q := by
  cases h with
  | @create _ q _ _ _ l created keyed free =>
    have hne : k ≠ l := fun he => by
      rw [he, free] at hp
      cases hp
    exact ⟨p, by rw [MemoryStore.lookup_store_ne hne, hp], .refl p⟩
  | @revise l p' q here revises =>
    by_cases he : k = l
    · subst he
      obtain rfl : p = p' := Option.some.inj (hp.symm.trans here)
      exact ⟨q, MemoryStore.lookup_store_self _ _, revises.revised⟩
    · exact ⟨p, by rw [MemoryStore.lookup_store_ne he, hp], .refl p⟩
  | @delete l deleted =>
    have hne : k ≠ l := fun he => hk (he ▸ deleted)
    exact ⟨p, by rw [MemoryStore.lookup_erase_ne hne, hp], .refl p⟩

theorem Moves.lookup (h : Moves deletes m m') {k : Key} {p : Policy} (hk : ¬ deletes k) (hp : m.lookup k = some p) :
    ∃ q, m'.lookup k = some q ∧ p.Revised q := by
  induction h with
  | refl => exact ⟨p, hp, .refl p⟩
  | tail _ hmove ih =>
    obtain ⟨q, hq, hrevised⟩ := ih
    obtain ⟨q', hq', hrevised'⟩ := hmove.lookup hk hq
    exact ⟨q', hq', hrevised.trans hrevised'⟩

end Moves

/-! ## Runs of requests -/

section Runs

variable {allowed : Request → Prop} {s t : GateState} {m : MemoryStore Policy}

/-- A request makes moves from policies that are upheld to policies that are. -/
theorem Request.moves (r : Request) (hm : Upheld m) (hs : Still m s) :
    ∃ m', Still m' (outcome r.run s).2 ∧ Upheld m' ∧ Moves r.Deletes m m' := by
  obtain ⟨m', hm', hmoves⟩ := r.ends_moves hm.keyed hm.distinct s hs
  exact ⟨m', hm', hmoves.upheld hm, hmoves⟩

/-- Wherever requests lead, the policies on record are upheld. -/
theorem Reachable.upheld (h : Reachable allowed s) : ∃ m, Still m s ∧ Upheld m := by
  induction h with
  | start now ids => exact ⟨.empty, rfl, .empty⟩
  | @request s r _ _ ih =>
    obtain ⟨m, hs, hm⟩ := ih
    obtain ⟨m', hs', hm', -⟩ := r.moves hm hs
    exact ⟨m', hs', hm'⟩

/-- Until it is deleted, what stands under the key of a policy is a revision of it. -/
theorem Leads.lookup {k : Key} {p : Policy} (h : Leads (fun r => ¬ r.Deletes k) s t) (hm : Upheld m)
    (hs : Still m s) (hp : m.lookup k = some p) :
    ∃ m' q, Still m' t ∧ Upheld m' ∧ m'.lookup k = some q ∧ p.Revised q := by
  induction h with
  | here => exact ⟨m, p, hs, hm, hp, .refl p⟩
  | @request t r _ hk ih =>
    obtain ⟨m', q, ht, hm', hq, hrevised⟩ := ih
    obtain ⟨m'', ht', hm'', hmoves⟩ := r.moves hm' ht
    obtain ⟨q', hq', hrevised'⟩ := hmoves.lookup hk hq
    exact ⟨m'', q', ht', hm'', hq', hrevised.trans hrevised'⟩

/-- **Policies on record stay valid and keep their identity.** Wherever requests lead, every policy on
record is valid and stands under the key of its id. And wherever further requests lead that do not
delete it, there is a valid policy under this key with the same id, tenant and origin, whose change log
starts with the one that the policy had. -/
theorem policies_kept (h : Reachable allowed s) :
    ∃ m, s.policies = .memory m ∧ ∀ k p, (k, p) ∈ m.records →
      p.id.asKey = .ok k ∧ p.Valid ∧
      ∀ t, Leads (fun r => ¬ r.Deletes k) s t →
        ∃ m' q, t.policies = .memory m' ∧ (k, q) ∈ m'.records ∧ q.Valid ∧ p.Revised q := by
  obtain ⟨m, hs, hm⟩ := h.upheld
  refine ⟨m, hs, fun k p hmem => ⟨hm.keyed (k, p) hmem, hm.valid (k, p) hmem, fun t ht => ?_⟩⟩
  obtain ⟨m', q, ht', hm', hq, hrevised⟩ := ht.lookup hm hs (hm.distinct.lookup_of_mem hmem)
  have hmem' := MemoryStore.mem_of_lookup hq
  exact ⟨m', q, ht', hmem', hm'.valid (k, q) hmem', hrevised⟩

end Runs

section Sample

open Sample

/-- A policy that was created is there, and is the same in essence after an exception was granted. -/
theorem policies_kept_created :
    Reachable Request.ofService created ∧
      ∃ m q, excepted.policies = .memory m ∧ (.str "p", q) ∈ m.records ∧ q.Valid ∧
        { plain with createdBy := "u" }.Revised q := by
  obtain ⟨m, hm, hkept⟩ := policies_kept created_reachable
  have hleads : Leads (fun r => ¬ r.Deletes (.str "p")) created excepted := .request .here fun h => h
  have hmem : (.str "p", { plain with createdBy := "u" }) ∈ m.records := by
    obtain rfl : MemoryStore.empty.store (.str "p") { plain with createdBy := "u" } = m := Store.memory.inj hm
    exact List.mem_cons_self
  obtain ⟨-, -, hlater⟩ := hkept _ _ hmem
  exact ⟨created_reachable, hlater _ hleads⟩

end Sample

end SupplyGate
