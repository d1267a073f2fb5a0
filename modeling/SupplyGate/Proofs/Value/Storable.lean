import Mathlib.Data.List.Nodup
import SupplyGate.Proofs.Value.Documents
import SupplyGate.Proofs.Value.Overlay
import SupplyGate.Store.Documents

/-!
# Values that rows can hold

A row holds values without days and timestamps, and maps whose keys are texts, each once (`Value.Storable`). Such
a value is written as it is (`Storable.written`), and so is what is put together from such values.
-/

namespace SupplyGate

/-- The value has no days and no timestamps, and the keys of its maps are texts, each once. -/
inductive Value.Storable : Value → Prop where
  | null : Storable .null
  | bool (b : Bool) : Storable (.bool b)
  | int (n : Int) : Storable (.int n)
  | float (x : Float) : Storable (.float x)
  | str (s : String) : Storable (.str s)
  | list {items : List Value} (items_storable : ∀ v ∈ items, Storable v) : Storable (.list items)
  | map {entries : List (Scalar × Value)} (keys : ∀ e ∈ entries, ∃ s, e.1 = .str s) (once : (entries.map (·.1)).Nodup)
    (values : ∀ e ∈ entries, Storable e.2) : Storable (.map entries)

attribute [simp] Value.Storable.null Value.Storable.bool Value.Storable.int Value.Storable.float Value.Storable.str

/-- A reading gives a document that a row can hold. -/
def Reading.Writes (r : Reading Value) : Prop := ∃ doc, r = .ok doc ∧ doc.Storable

namespace Value

variable {entries : List (Scalar × Value)}

/-- Keys that are texts are the same where they are equal. -/
theorem same_eq_false {k : Scalar} {s : String} (hk : ∃ t, k = .str t) (hne : k ≠ .str s) : k.same (.str s) = false := by
  obtain ⟨t, rfl⟩ := hk
  rw [Scalar.same_str]
  exact beq_false_of_ne fun heq => hne (heq ▸ rfl)

/-! ## Writing -/

theorem writtenItems_self {items : List Value} (h : ∀ v ∈ items, DocumentStore.written v = .ok v) :
    DocumentStore.writtenItems items = .ok items := by
  induction items with
  | nil => rfl
  | cons v items ih =>
    rw [DocumentStore.writtenItems, h v List.mem_cons_self, ih fun w hw => h w (List.mem_cons_of_mem _ hw)]
    rfl

/-- Entries with new texts for keys are added as they are. -/
theorem writtenEntries_self (before : List (Scalar × Value)) (hkeys : ∀ e ∈ before ++ entries, ∃ s, e.1 = .str s)
    (honce : ((before ++ entries).map (·.1)).Nodup) (h : ∀ e ∈ entries, DocumentStore.written e.2 = .ok e.2) :
    DocumentStore.writtenEntries before entries = .ok (before ++ entries) := by
  induction entries generalizing before with
  | nil =>
    rw [List.append_nil]
    rfl
  | cons e entries ih =>
    obtain ⟨k, v⟩ := e
    obtain ⟨s, rfl⟩ : ∃ s, k = .str s := hkeys (k, v) (List.mem_append_right _ List.mem_cons_self)
    have hnew : ∀ b ∈ before, b.1.same (.str s) = false := fun b hb => by
      refine same_eq_false (hkeys b (List.mem_append_left _ hb)) fun heq => ?_
      rw [List.map_append] at honce
      exact (List.nodup_append.mp honce).2.2 b.1 (List.mem_map_of_mem hb) (.str s) List.mem_cons_self heq
    rw [List.append_cons] at hkeys honce ⊢
    have hrest := ih _ hkeys honce fun e he => h e (List.mem_cons_of_mem _ he)
    rw [DocumentStore.writtenEntries, h _ List.mem_cons_self]
    change DocumentStore.writtenEntries (insert (.str s) v before) entries = _
    rw [insert_of_new hnew, hrest]

/-- What a row can hold is written as it is. -/
theorem Storable.written {v : Value} (h : v.Storable) : DocumentStore.written v = .ok v := by
  induction h with
  | list _ ih =>
    rw [DocumentStore.written, writtenItems_self ih]
    rfl
  | map keys once _ ih =>
    rw [DocumentStore.written, writtenEntries_self [] keys once ih]
    rfl
  | _ => rfl

/-! ## Putting together -/

@[simp] theorem storable_list {items : List Value} : (list items).Storable ↔ ∀ v ∈ items, v.Storable := by
  refine ⟨fun h => ?_, .list⟩
  cases h with
  | list h => exact h

@[simp] theorem storable_texts (ss : List String) : (texts ss).Storable :=
  .list (List.forall_mem_map.mpr fun s _ => .str s)

theorem storable_map : (map entries).Storable ↔
    (∀ e ∈ entries, ∃ s, e.1 = .str s) ∧ (entries.map (·.1)).Nodup ∧ ∀ e ∈ entries, e.2.Storable := by
  refine ⟨fun h => ?_, fun ⟨keys, once, values⟩ => .map keys once values⟩
  cases h with
  | map keys once values => exact ⟨keys, once, values⟩

@[simp] theorem storable_fields {es : List (String × Value)} :
    (fields es).Storable ↔ (es.map (·.1)).Nodup ∧ ∀ e ∈ es, e.2.Storable := by
  have honce : ((es.map (·.1)).map Scalar.str).Nodup ↔ (es.map (·.1)).Nodup :=
    List.nodup_map_iff fun _ _ heq => Scalar.str.inj heq
  rw [fields, storable_map, keys_fields, honce, List.forall_mem_map, List.forall_mem_map]
  exact ⟨fun h => h.2, fun h => ⟨fun e _ => ⟨e.1, rfl⟩, h⟩⟩

@[simp] theorem storable_ofRecords {α : Type} {toDoc : α → Value} {as : List α} :
    (ofRecords toDoc as).Storable ↔ ∀ a ∈ as, (toDoc a).Storable := by
  rw [ofRecords, storable_list, List.forall_mem_map]

theorem storable_insert (h : (map entries).Storable) (s : String) {v : Value} (hv : v.Storable) :
    (map (insert (.str s) v entries)).Storable := by
  obtain ⟨keys, once, values⟩ := storable_map.mp h
  have hvalues : ∀ e ∈ insert (.str s) v entries, e.2.Storable := fun e he => by
    rcases mem_insert he with rfl | he
    · exact hv
    · exact values e he
  rcases insert_cases (.str s) v entries with hsame | ⟨hnew, heq⟩
  · refine .map (fun e he => ?_) (hsame ▸ once) hvalues
    have he : e.1 ∈ entries.map (·.1) := hsame ▸ List.mem_map_of_mem he
    obtain ⟨e', he', hkey⟩ := List.mem_map.mp he
    exact hkey ▸ keys e' he'
  · rw [heq] at hvalues ⊢
    refine .map (fun e he => ?_) ?_ hvalues
    · rcases List.mem_append.mp he with he | he
      · exact keys e he
      · exact ⟨s, congrArg (·.1) (List.mem_singleton.mp he)⟩
    · rw [List.map_append, List.map_singleton]
      refine List.nodup_append.mpr ⟨once, List.nodup_singleton _, fun k hk k' hk' heq => ?_⟩
      obtain ⟨e, he, rfl⟩ := List.mem_map.mp hk
      have hsame := hnew e he
      rw [heq, List.mem_singleton.mp hk', Scalar.same_str, beq_self_eq_true] at hsame
      cases hsame

theorem Storable.orElse {v w : Value} (hv : v.Storable) (hw : w.Storable) : (v.orElse w).Storable := by
  unfold Value.orElse
  split
  · exact hv
  · exact hw

@[simp] theorem storable_text {α : Type} [Scale α] (a : α) : (Scale.value a).Storable := .str _

@[simp] theorem storable_timestamp (o : Option Timestamp) : (Timestamp.toDoc o).Storable := by
  cases o with
  | none => exact .null
  | some t => exact .str _

/-! ## Reading what rows can hold -/

theorem storable_findEntry {key : Scalar} {v : Value} (h : (map entries).Storable) (hv : findEntry key entries = some v) :
    v.Storable := by
  obtain ⟨k, hk⟩ := exists_mem_of_findEntry hv
  exact (storable_map.mp h).2.2 _ hk

namespace Storable

variable {doc v dflt : Value} {key : String} {items : List Value}

theorem field (h : doc.Storable) (hv : doc.field key dflt = .ok v) (hdflt : dflt.Storable) : v.Storable := by
  obtain ⟨o, ho, hv⟩ := Reading.bind_eq_ok.mp hv
  obtain rfl := Reading.pure_eq_ok.mp hv
  cases doc with
  | map entries =>
    cases ho
    cases hfound : find? key entries with
    | none => exact hdflt
    | some w => exact storable_findEntry h hfound
  | scalar s => cases ho
  | list items => cases ho

theorem item (h : doc.Storable) (hv : doc.item key = .ok v) : v.Storable := by
  unfold Value.item at hv
  split at hv
  · split at hv
    · next hfound =>
      cases hv
      exact storable_findEntry h hfound
    · cases hv
  all_goals cases hv

theorem asList (h : v.Storable) (hitems : v.asList = .ok items) : ∀ w ∈ items, w.Storable := by
  unfold Value.asList at hitems
  split at hitems
  · cases hitems
    exact storable_list.mp h
  · cases hitems
    refine List.forall_mem_map.mpr fun (k, w) he => ?_
    obtain ⟨s, rfl⟩ : ∃ s, k = .str s := (storable_map.mp h).1 (k, w) he
    exact .str s
  · cases hitems
    exact List.forall_mem_map.mpr fun c _ => .str _
  · cases hitems

theorem asListOrEmpty (h : v.Storable) (hitems : v.asListOrEmpty = .ok items) : ∀ w ∈ items, w.Storable :=
  (h.orElse (.list (by simp))).asList hitems

/-- What holds of all that a reading gives of documents that rows can hold, holds of the records of a collection. -/
theorem asRecordsOrEmpty {α : Type} {P : α → Prop} {ofDoc : Value → Reading α} {as : List α} (h : v.Storable)
    (has : v.asRecordsOrEmpty ofDoc = .ok as) (hread : ∀ doc a, doc.Storable → ofDoc doc = .ok a → P a) : ∀ a ∈ as, P a := by
  obtain ⟨docs, hdocs, hmap⟩ := Reading.bind_eq_ok.mp has
  intro a ha
  obtain ⟨doc, hdoc, hofDoc⟩ := exists_of_forall₂ (mapM_ok hmap) a ha
  exact hread doc a ((h.orElse (.list (by simp))).asList hdocs doc hdoc) hofDoc

theorem listField (h : doc.Storable) (hitems : v.asListOrEmpty = .ok items) (hv : doc.field key dflt = .ok v)
    (hdflt : dflt.Storable) : (Value.list items).Storable :=
  storable_list.mpr ((h.field hv hdflt).asListOrEmpty hitems)

end Storable

end Value

/-- Where each record has a document that a row can hold, a row can hold the list of them. -/
theorem Reading.writes_mapM {α : Type} {toDoc : α → Reading Value} {as : List α} (h : ∀ a ∈ as, (toDoc a).Writes) :
    ∃ docs, as.mapM toDoc = .ok docs ∧ (Value.list docs).Storable := by
  obtain ⟨docs, hdocs⟩ := exists_mapM_ok fun a ha => (h a ha).imp fun _ hdoc => hdoc.1
  refine ⟨docs, hdocs, Value.storable_list.mpr fun doc hdoc => ?_⟩
  obtain ⟨a, ha, hwritten⟩ := exists_of_forall₂ (mapM_ok hdocs) doc hdoc
  obtain ⟨doc', hdoc', hstorable⟩ := h a ha
  cases hwritten.symm.trans hdoc'
  exact hstorable

end SupplyGate
