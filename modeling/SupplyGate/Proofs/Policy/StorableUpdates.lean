import SupplyGate.Proofs.Policy.Revision
import SupplyGate.Proofs.Policy.StorableDocuments
import SupplyGate.Proofs.Text.Case

/-!
# Updates that rows can hold

An update by documents changes a policy that a row can hold into one that a row can hold, and it does to a policy what
it does to the policy as its document gives it: both come to the same, or to a policy and what its document gives.
-/

namespace SupplyGate

/-- Rows can hold what the field is set to, and policies are read with such a field. -/
def PolicyEdit.Kept : PolicyEdit → Prop
  | .name v | .description v | .enabled v | .priority v | .approvedBy v => v.Storable
  | .scope s => ∃ x, s = .held x ∧ x.toDoc.Storable
  | .enforcement e => ∃ x, e = .held x ∧ x.toDoc.Storable
  | .unknown _ => True
  | .version _ | .exceptions _ | .approvedAt _ => False

/-- Rows can hold what the update says. -/
structure PolicyUpdate.Kept (u : PolicyUpdate) : Prop where
  edits : ∀ e ∈ u.edits, e.Kept
  rules : ∀ rules, u.rules = some rules → ∃ rs : List Rule, rules = rs.map .held ∧ ∀ r ∈ rs, r.Kept
  metadata : ∀ m, u.metadata = some m → ∃ x, m = .held x ∧ x.Kept

/-- A policy that rows can hold is put in the place of another one by an update that says what rows can hold. -/
theorem Policy.Storable.update {p : Policy} (h : p.Storable) : (PolicyUpdate.ofPolicy p).Kept where
  edits := by
    simp only [PolicyUpdate.ofPolicy, List.forall_mem_cons]
    exact ⟨h.name, h.description, h.enabled, h.priority, h.scope, h.enforcement, by simp⟩
  rules rules hrules := by
    cases hrules
    exact ⟨p.rules, rfl, h.rules⟩
  metadata m hm := by cases hm

/-! ## Reading -/

namespace PolicyUpdate

/-- A field of an update: a scope, an enforcement and metadata come as maps, and rules as a list of maps. An update that
sets the version, all exceptions or the time of an approval is none of documents only. -/
def Described (field : String) (v : Value) : Prop :=
  match field with
  | "version" | "exceptions" | "approved_at" => False
  | "scope" | "enforcement" | "metadata" => ∃ entries, v = .map entries
  | "rules" => ∃ items, v = .list items ∧ ∀ item ∈ items, ∃ entries, item = .map entries
  | _ => True

theorem kept_editOf {field : String} {v : Value} {e : PolicyEdit} (hv : v.Storable) (hd : Described field v)
    (h : editOf field v = .ok e) : e.Kept := by
  unfold editOf at h
  split at h
  · cases h
    exact hv
  · cases h
    exact hv
  · exact hd.elim
  · cases h
    exact hv
  · cases h
    exact hv
  · obtain ⟨entries, rfl⟩ := hd
    obtain ⟨l, hl, rfl⟩ := Reading.map_eq_ok.mp h
    obtain ⟨s, hs, rfl⟩ := Reading.map_eq_ok.mp hl
    exact ⟨s, rfl, PolicyScope.storable_ofDoc hv hs⟩
  · obtain ⟨entries, rfl⟩ := hd
    obtain ⟨l, hl, rfl⟩ := Reading.map_eq_ok.mp h
    obtain ⟨s, hs, rfl⟩ := Reading.map_eq_ok.mp hl
    exact ⟨s, rfl, Enforcement.storable_ofDoc hv hs⟩
  · exact hd.elim
  · cases h
    exact hv
  · exact hd.elim
  · cases h
    trivial

/-- Rules of maps are read as rules. -/
theorem kept_rulesOf {v : Value} {rules : List (Loose Rule)} (hv : v.Storable) (hd : Described "rules" v)
    (h : rulesOf v = .ok rules) : ∃ rs : List Rule, rules = rs.map .held ∧ ∀ r ∈ rs, r.Kept := by
  obtain ⟨items, rfl, hitems⟩ := hd
  have hread : items.mapM (recordOrRaw Rule.ofDoc) = .ok rules := h
  clear h
  have hstorable := Value.storable_list.mp hv
  clear hv
  induction items generalizing rules with
  | nil => exact ⟨[], (Reading.pure_eq_ok.mp hread).symm, by simp⟩
  | cons item items ih =>
    obtain ⟨l, ls, hl, hls, rfl⟩ := Reading.mapM_cons_eq_ok.mp hread
    obtain ⟨entries, rfl⟩ := hitems item List.mem_cons_self
    obtain ⟨r, hr, rfl⟩ := Reading.map_eq_ok.mp hl
    obtain ⟨rs, rfl, hrs⟩ := ih (fun i hi => hitems i (List.mem_cons_of_mem _ hi)) hls fun i hi =>
      hstorable i (List.mem_cons_of_mem _ hi)
    refine ⟨r :: rs, rfl, List.forall_mem_cons.mpr ⟨Rule.kept_ofDoc (hstorable _ List.mem_cons_self) hr, hrs⟩⟩

/-- **An update of documents** says what rows can hold. -/
theorem kept_ofDoc {doc : Value} {u : PolicyUpdate} (hdoc : doc.Storable)
    (hd : ∀ entries, doc = .map entries → ∀ f ∈ changedFields entries, Described f.1 f.2) (h : ofDoc doc = .ok u) : u.Kept := by
  cases doc with
  | scalar s => cases h
  | list items => cases h
  | map entries =>
    have hd := hd entries rfl
    have hstorable : ∀ f ∈ changedFields entries, f.2.Storable := by
      intro f hf
      obtain ⟨e, he, rfl⟩ := List.mem_map.mp (List.mem_of_mem_filter hf)
      exact (Value.storable_map.mp hdoc).2.2 e he
    simp only [ofDoc, List.partition_eq_filter_filter, Reading.bind_eq_ok, Reading.pure_eq_ok] at h
    obtain ⟨edits, hedits, metadata, hmetadata, rules, hrules, rfl⟩ := h
    refine { edits := fun e he => ?_, rules := fun rs hrs => ?_, metadata := fun m hm => ?_ }
    · obtain ⟨f, hf, hedit⟩ := exists_of_forall₂ (mapM_ok hedits) e he
      have hf : f ∈ changedFields entries := by
        rcases List.mem_append.mp hf with hf | hf <;> exact List.mem_of_mem_filter (List.mem_of_mem_filter hf)
      exact kept_editOf (hstorable f hf) (hd f hf) hedit
    · cases hrs
      cases hfound : (changedFields entries).lookup "rules" with
      | none =>
        rw [hfound] at hrules
        cases hrules
      | some v =>
        rw [hfound] at hrules
        obtain ⟨rs', hrs', heq⟩ := Reading.map_eq_ok.mp hrules
        cases heq
        have hmem := Text.mem_of_lookup hfound
        exact kept_rulesOf (hstorable _ hmem) (hd _ hmem) hrs'
    · cases hm
      cases hfound : (changedFields entries).lookup "metadata" with
      | none =>
        rw [hfound] at hmetadata
        cases hmetadata
      | some v =>
        rw [hfound] at hmetadata
        obtain ⟨l, hl, heq⟩ := Reading.map_eq_ok.mp hmetadata
        cases heq
        have hmem := Text.mem_of_lookup hfound
        obtain ⟨es, rfl⟩ : ∃ es, v = .map es := hd _ hmem
        obtain ⟨x, hx, rfl⟩ := Reading.map_eq_ok.mp hl
        exact ⟨x, rfl, PolicyMetadata.kept_ofDoc (hstorable _ hmem) hx⟩

end PolicyUpdate

/-! ## Edits -/

namespace PolicyEdit

theorem apply_kept {p q : Policy} {e : PolicyEdit} (hp : p.Kept) (he : e.Kept) (h : apply p e = .ok q) : q.Kept := by
  cases e with
  | unknown field => cases h
  | version v => exact he.elim
  | exceptions es => exact he.elim
  | approvedAt v => exact he.elim
  | name v =>
    cases h
    exact { hp with name := he }
  | description v =>
    cases h
    exact { hp with description := he }
  | enabled v =>
    cases h
    exact { hp with enabled := he }
  | priority v =>
    cases h
    exact { hp with priority := he }
  | approvedBy v =>
    cases h
    exact { hp with approvedBy := he }
  | scope s =>
    cases h
    exact { hp with scope := he }
  | enforcement e =>
    cases h
    exact { hp with enforcement := he }

theorem foldlM_apply_kept {edits : List PolicyEdit} {p q : Policy} (hp : p.Kept) (hedits : ∀ e ∈ edits, e.Kept)
    (h : edits.foldlM apply p = .ok q) : q.Kept :=
  foldlM_keeps (fun e he _ _ hp' => apply_kept hp' (hedits e he)) hp h

theorem apply_asRead (p : Policy) (e : PolicyEdit) : apply p.asRead e = (apply p e).map Policy.asRead := by
  cases e <;> rfl

theorem foldlM_apply_asRead : ∀ (edits : List PolicyEdit) (p : Policy),
    edits.foldlM apply p.asRead = (edits.foldlM apply p).map Policy.asRead
  | [], _ => rfl
  | e :: edits, p => by
    rw [List.foldlM_cons, List.foldlM_cons, apply_asRead]
    cases apply p e with
    | error f => rfl
    | ok q => exact foldlM_apply_asRead edits q

end PolicyEdit

/-! ## Updates -/

namespace Gate

variable {p q : Policy} {u : PolicyUpdate} {now : Timestamp} {updatedBy : Value} {rules : Option (List Rule)}

theorem withChanged_kept (hp : p.Kept) (hrules : ∀ rs, rules = some rs → ∀ r ∈ rs, r.Kept) (hnow : now.Fixed)
    (hby : updatedBy.Storable) (h : withChanged p now updatedBy rules = .ok q) : q.Kept := by
  cases rules with
  | none =>
    cases h
    exact hp
  | some rs =>
    obtain ⟨version, -, h⟩ := Reading.bind_eq_ok.mp h
    obtain rfl := Reading.pure_eq_ok.mp h
    refine { hp with version := ⟨version, rfl⟩, rules := hrules rs rfl, metadata := hp.metadata.withLog ?_ }
    refine List.forall_mem_append.mpr ⟨hp.metadata.log, List.forall_mem_singleton.mpr ⟨fun t ht => Option.some.inj ht ▸ hnow, ?_⟩⟩
    simp [PolicyChange.toDoc, hby]

theorem withMetadata_kept {metadata : Option (Loose PolicyMetadata)} (hp : p.Kept)
    (hmetadata : ∀ m, metadata = some m → ∃ x, m = .held x ∧ x.Kept) (h : withMetadata p metadata = .ok q) : q.Kept := by
  cases metadata with
  | none =>
    cases h
    exact hp
  | some m =>
    obtain ⟨x, rfl, hx⟩ := hmetadata m rfl
    cases h
    exact { hp with metadata := hx.withLog hp.metadata.log }

theorem withMetadata_asRead (p : Policy) (metadata : Option (Loose PolicyMetadata)) :
    withMetadata p.asRead metadata = (withMetadata p metadata).map Policy.asRead := by
  cases metadata with
  | none => rfl
  | some m => cases m <;> rfl

/-- An updated policy can be held by a row. -/
theorem assembled_kept (hp : p.Kept) (hu : u.Kept) (hrules : ∀ rs, rules = some rs → ∀ r ∈ rs, r.Kept) (hnow : now.Fixed)
    (hby : updatedBy.Storable) (h : assembled p u rules now updatedBy = .ok q) : q.Kept := by
  obtain ⟨raised, hraised, h⟩ := Reading.bind_eq_ok.mp h
  obtain ⟨described, hdescribed, h⟩ := Reading.bind_eq_ok.mp h
  obtain ⟨edited, hedited, h⟩ := Reading.bind_eq_ok.mp h
  obtain rfl := Reading.pure_eq_ok.mp h
  have hraisedKept := withChanged_kept hp hrules hnow hby hraised
  have hkept := PolicyEdit.foldlM_apply_kept (withMetadata_kept hraisedKept hu.metadata hdescribed) hu.edits hedited
  refine { hkept with version := ?_, updatedAt := hnow }
  dsimp only
  split
  · exact hraisedKept.version
  · exact hkept.version

/-- Where the rules change, an update makes no difference between a policy and what its document gives. -/
theorem assembled_some_asRead (p : Policy) (u : PolicyUpdate) (rs : List Rule) (now : Timestamp) (updatedBy : Value) :
    assembled p.asRead u (some rs) now updatedBy = assembled p u (some rs) now updatedBy := rfl

/-- Where the rules stay, an update does the same to a policy and to what its document gives. -/
theorem assembled_none_asRead (p : Policy) (u : PolicyUpdate) (now : Timestamp) (updatedBy : Value) :
    assembled p.asRead u none now updatedBy = (assembled p u none now updatedBy).map Policy.asRead := by
  unfold assembled withChanged
  simp only [Reading.ok_bind, withMetadata_asRead]
  cases withMetadata p u.metadata with
  | error f => rfl
  | ok described =>
    change (u.edits.foldlM PolicyEdit.apply described.asRead >>= _) = Except.map _ (u.edits.foldlM PolicyEdit.apply described >>= _)
    rw [PolicyEdit.foldlM_apply_asRead]
    cases u.edits.foldlM PolicyEdit.apply described with
    | error f => rfl
    | ok edited => rfl

end Gate

end SupplyGate
