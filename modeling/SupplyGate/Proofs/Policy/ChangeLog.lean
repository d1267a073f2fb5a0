import SupplyGate.Proofs.Policy.Trail
import SupplyGate.Proofs.Value.Documents

/-!
# Change logs

An update that changes the rules of a policy raises its version and adds one entry to the change log; any other
update adds none (`assembled_logs`). Whether an update asks for rules, or for other exceptions, is seen from the
fields that its document names (`PolicyUpdate.ofDoc_names`).
-/

namespace SupplyGate

/-- The entry of a change log that tells of changed rules. -/
def PolicyChange.ofRules (version : String) (now : Timestamp) (author : Value) : PolicyChange where
  version := .str version
  date := some now
  author
  description := "Policy rules updated"
  changes := ["Rules modified"]

/-- What an update leaves of a policy besides its rules and version: the metadata are those that the update names,
or the policy's, with a change log that is told apart from them. -/
structure Policy.Logs (p : Policy) (u : PolicyUpdate) (now : Timestamp) (changeLog : List PolicyChange) (q : Policy) :
    Prop where
  metadata : ∃ m, (u.metadata = none ∧ m = p.metadata ∨ u.metadata = some (.held m)) ∧ q.metadata = { m with changeLog }
  exceptions : (∀ es, PolicyEdit.exceptions es ∉ u.edits) → q.exceptions = p.exceptions
  updatedAt : q.updatedAt = now

/-! ## Fields of documents -/

namespace PolicyUpdate

/-- A document of an update names a field that an update may change. -/
def Names (entries : List (Scalar × Value)) (field : String) : Prop := ∃ v, (field, v) ∈ changedFields entries

theorem lookup_isSome_iff_names {entries : List (Scalar × Value)} {field : String} :
    ((changedFields entries).lookup field).isSome ↔ Names entries field := by
  rw [List.lookup_isSome_iff, Names]
  constructor
  · rintro ⟨f, hf, hfield⟩
    rw [beq_iff_eq.mp hfield]
    exact ⟨f.2, hf⟩
  · rintro ⟨v, hv⟩
    exact ⟨(field, v), hv, beq_self_eq_true field⟩

theorem optionally_isSome {α : Type} {read : Value → Reading α} {o : Option Value} {r : Option α}
    (h : optionally read o = .ok r) : r.isSome = o.isSome := by
  cases o with
  | none =>
    cases h
    rfl
  | some v =>
    obtain ⟨a, -, rfl⟩ := Reading.map_eq_ok.mp h
    rfl

/-- Only the field for exceptions becomes a change of them. -/
theorem editOf_exceptions {field : String} {v : Value} {es : Loose (List (Loose PolicyException))}
    (h : editOf field v = .ok (.exceptions es)) : field = "exceptions" := by
  unfold editOf at h
  split at h
  case h_6 | h_7 =>
    obtain ⟨a, -, ha⟩ := Reading.map_eq_ok.mp h
    cases ha
  case h_8 => rfl
  all_goals cases h

/-- An update by a document asks for rules just when the document names them, and the same is true of exceptions. -/
theorem ofDoc_names {entries : List (Scalar × Value)} {u : PolicyUpdate} (h : ofDoc (.map entries) = .ok u) :
    (u.rules.isSome ↔ Names entries "rules") ∧ ((∃ es, .exceptions es ∈ u.edits) ↔ Names entries "exceptions") := by
  simp only [ofDoc, List.partition_eq_filter_filter, Reading.bind_eq_ok, Reading.pure_eq_ok] at h
  obtain ⟨edits, hedits, metadata, -, rules, hrules, rfl⟩ := h
  refine ⟨by rw [optionally_isSome hrules, lookup_isSome_iff_names], ?_⟩
  have hall := mapM_ok hedits
  constructor
  · rintro ⟨es, hes⟩
    obtain ⟨f, hf, hedit⟩ := exists_of_forall₂ hall _ hes
    rw [← editOf_exceptions hedit]
    refine ⟨f.2, ?_⟩
    rcases List.mem_append.mp hf with hf | hf <;> exact List.mem_of_mem_filter (List.mem_of_mem_filter hf)
  · rintro ⟨v, hv⟩
    have hplain : ("exceptions", v) ∈ (changedFields entries).filter fun f => f.1 != "rules" && f.1 != "metadata" :=
      List.mem_filter.mpr ⟨hv, by simp⟩
    obtain ⟨e, he, hedit⟩ := exists_of_forall₂ hall.flip ("exceptions", v)
      (List.mem_append_right _ (List.mem_filter.mpr ⟨hplain, by simp⟩))
    cases hedit
    exact ⟨_, he⟩

end PolicyUpdate

/-! ## Updates -/

namespace Gate

variable {p q : Policy} {u : PolicyUpdate} {now : Timestamp} {updatedBy : Value}

theorem withMetadata_metadata {m : Option (Loose PolicyMetadata)} (h : withMetadata p m = .ok q) :
    ∃ d, (m = none ∧ d = p.metadata ∨ m = some (.held d)) ∧
      q.metadata = { d with changeLog := p.metadata.changeLog } := by
  match m with
  | none =>
    cases h
    exact ⟨_, .inl ⟨rfl, rfl⟩, rfl⟩
  | some (.held d) =>
    cases h
    exact ⟨d, .inr rfl, rfl⟩
  | some (.raw v) => cases h

theorem withRules_logs {rules : List Rule} (h : withRules p rules now updatedBy = .ok q) :
    ∃ version, Version.bump p.version = .ok version ∧ q.version = .str version ∧
      q.metadata = { p.metadata with changeLog := p.metadata.changeLog ++ [.ofRules version now updatedBy] } := by
  obtain ⟨version, hversion, h⟩ := Reading.bind_eq_ok.mp h
  obtain rfl := Reading.pure_eq_ok.mp h
  exact ⟨version, hversion, rfl, rfl⟩

/-- What an update leaves of a policy goes by what changed rules make of it. -/
theorem assembled_finishes {rules : Option (List Rule)} {raised : Policy} {changeLog : List PolicyChange}
    (h : assembled p u rules now updatedBy = .ok q) (hraised : withChanged p now updatedBy rules = .ok raised)
    (hlog : raised.metadata = { p.metadata with changeLog }) :
    p.Logs u now changeLog q ∧ (rules.isSome = true → q.version = raised.version) := by
  have hexceptions := assembled_exceptions h
  obtain ⟨_, hraised', h⟩ := Reading.bind_eq_ok.mp h
  obtain rfl := Except.ok.inj (hraised.symm.trans hraised')
  obtain ⟨described, hdescribed, h⟩ := Reading.bind_eq_ok.mp h
  obtain ⟨edited, hedited, h⟩ := Reading.bind_eq_ok.mp h
  obtain rfl := Reading.pure_eq_ok.mp h
  obtain ⟨d, hd, hmetadata⟩ := withMetadata_metadata hdescribed
  rw [hlog] at hd hmetadata
  have hedits : edited.metadata = described.metadata := (PolicyEdit.foldlM_apply_ok hedited).metadata
  refine ⟨⟨?_, hexceptions, rfl⟩, fun hsome => if_pos hsome⟩
  rcases hd with ⟨hnone, rfl⟩ | hsome
  · exact ⟨p.metadata, .inl ⟨hnone, rfl⟩, hedits.trans hmetadata⟩
  · exact ⟨d, .inr hsome, hedits.trans hmetadata⟩

/-- **Version and change log after an update.** Changed rules raise the version, whichever one the update names,
and add one entry; without them the change log stays as it is. -/
theorem assembled_logs {rules : Option (List Rule)} (h : assembled p u rules now updatedBy = .ok q) :
    (rules = none ∧ p.Logs u now p.metadata.changeLog q) ∨
      ∃ rs version, rules = some rs ∧ Version.bump p.version = .ok version ∧ q.version = .str version ∧
        p.Logs u now (p.metadata.changeLog ++ [.ofRules version now updatedBy]) q := by
  obtain ⟨raised, hraised, -⟩ := Reading.bind_eq_ok.mp h
  cases rules with
  | none =>
    cases hraised
    exact .inl ⟨rfl, (assembled_finishes h rfl rfl).1⟩
  | some rs =>
    obtain ⟨version, hbump, hversion, hlog⟩ := withRules_logs hraised
    obtain ⟨hlogs, hraises⟩ := assembled_finishes h hraised hlog
    exact .inr ⟨rs, version, rfl, hbump, (hraises rfl).trans hversion, hlogs⟩

end Gate
end SupplyGate
