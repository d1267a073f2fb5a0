import SupplyGate.Proofs.Policy.StorableFindings
import SupplyGate.Proofs.Store.Memory

/-!
# Stores with the same records

A store in memory and a store of documents have the same records when the rows hold the documents of the records, one
by one (`Mirrors`). Then they answer alike, up to what documents leave out: where the one gives a record, the other
gives what its document gives (`Mirrored.asRead`). And they still have the same records when the same is put into both,
or records with the same document are.
-/

namespace SupplyGate

/-- The records have one id, one tenant and one document. -/
structure Stored.Same {α : Type} [Stored α] (a b : α) : Prop where
  ident : Stored.ident b = Stored.ident a
  tenant : Stored.tenant b = Stored.tenant a
  doc : Stored.toDoc b = Stored.toDoc a

theorem Stored.Same.refl {α : Type} [Stored α] (a : α) : Same a a := ⟨rfl, rfl, rfl⟩

/-- Records that rows can hold: those with `Kept` have texts for an id and a tenant, and come back from a row as their
document gives them. -/
class Mirrored (α : Type) [Stored α] where
  asRead : α → α
  Kept : α → Prop
  same_asRead (a : α) : Stored.Same a (asRead a)
  ident_text {a : α} (h : Kept a) : ∃ s, Stored.ident a = .str s
  tenant_text {a : α} (h : Kept a) : ∃ s, Stored.tenant a = .str s
  writes {a : α} (h : Kept a) : (Stored.toDoc a).Writes
  ofDoc_toDoc {a : α} (h : Kept a) (now : Timestamp) {doc : Value} (hdoc : Stored.toDoc a = .ok doc) :
    Stored.ofDoc now doc = .ok (asRead a)

/-! ## The records of a gate -/

instance : Mirrored Policy where
  asRead := Policy.asRead
  Kept := Policy.Kept
  same_asRead p := ⟨rfl, rfl, p.toDoc_asRead⟩
  ident_text h := h.id
  tenant_text h := h.tenantId
  writes h := h.writes
  ofDoc_toDoc h now _ := Policy.ofDoc_toDoc h.documented now

instance : Mirrored Violation where
  asRead := Violation.asRead
  Kept := Violation.Kept
  same_asRead v := ⟨rfl, rfl, v.toDoc_asRead⟩
  ident_text h := h.id
  tenant_text h := h.tenantId
  writes h := h.writes
  ofDoc_toDoc h now _ := Violation.ofDoc_toDoc h.documented now

instance : Mirrored EnforcementResult where
  asRead := EnforcementResult.asRead
  Kept := EnforcementResult.Kept
  same_asRead r := ⟨rfl, rfl, r.toDoc_asRead⟩
  ident_text h := h.evaluationId
  tenant_text h := h.tenantId
  writes h := h.writes
  ofDoc_toDoc h now _ := EnforcementResult.ofDoc_toDoc h.documented now

/-- The strategy has a tenant that is a text, and a row can hold its document. -/
structure UpdateStrategy.Kept (s : UpdateStrategy) : Prop where
  tenantId : ∃ t, s.tenantId = .str t
  storable : s.toDoc.Storable

instance : Mirrored UpdateStrategy where
  asRead := id
  Kept := UpdateStrategy.Kept
  same_asRead := Stored.Same.refl
  ident_text h := h.tenantId
  tenant_text h := h.tenantId
  writes h := ⟨_, rfl, h.storable⟩
  ofDoc_toDoc _ _ _ hdoc := by
    cases hdoc
    exact UpdateStrategy.ofDoc_toDoc _

variable {α : Type} [Stored α] [Mirrored α]

open Mirrored

/-! ## Rows -/

/-- The row holds the document of a record under its id. -/
structure RowOf (e : Key × α) (row : Row) : Prop where
  kept : Kept e.2
  key : e.1 = .str row.ident
  ident : Stored.ident e.2 = .str row.ident
  tenant : Stored.tenant e.2 = .str row.tenant
  doc : Stored.toDoc e.2 = .ok row.doc

/-- The rows that have a second key, with it. -/
def DocumentStore.index (d : DocumentStore) : List (String × Key) :=
  d.rows.filterMap fun r => r.key.map fun key => (key, .str r.ident)

/-- The rows hold the records, and their second keys are those of the index. -/
structure Mirrors (m : MemoryStore α) (d : DocumentStore) : Prop where
  rows : List.Forall₂ RowOf m.records d.rows
  once : (d.rows.map (·.ident)).Nodup
  index : m.index = d.index
  named : ∀ r ∈ d.rows, r.key.isSome → r.ident ≠ ""

/-- A store in memory and a store of documents, with the same records. -/
inductive Store.Mirrors : Store α → Store α → Prop where
  | of {m : MemoryStore α} {d : DocumentStore} (same : SupplyGate.Mirrors m d) : Mirrors (.memory m) (.documents d)

section Rows

variable {records : List (Key × α)} {rows : List Row} {row : Row} {a b : α}

/-- What a row can hold is written as its document. -/
theorem exists_docOf (ha : Kept a) (hab : Stored.Same a b) : ∃ doc, DocumentStore.docOf b = .ok doc ∧ Stored.toDoc a = .ok doc := by
  obtain ⟨doc, hdoc, hstorable⟩ := writes ha
  refine ⟨doc, ?_, hdoc⟩
  rw [DocumentStore.docOf, hab.doc, hdoc]
  exact hstorable.written

/-- A record, or one with the same document, has a row. -/
theorem exists_rowOf (ha : Kept a) (hab : Stored.Same a b) (key : Option String) :
    ∃ row, DocumentStore.rowOf b key = .ok row ∧ row.key = key ∧ RowOf (.str row.ident, a) row := by
  obtain ⟨ident, hident⟩ := ident_text ha
  obtain ⟨tenant, htenant⟩ := tenant_text ha
  obtain ⟨doc, hdocOf, hdoc⟩ := exists_docOf ha hab
  refine ⟨⟨ident, tenant, key, doc⟩, ?_, rfl, ha, rfl, hident, htenant, hdoc⟩
  rw [DocumentStore.rowOf, hdocOf, hab.ident, hab.tenant, hident, htenant]
  rfl

/-- A record is found by its key just when a row is found by its id, and then the row holds it. -/
theorem lookup_mirrored (h : List.Forall₂ RowOf records rows) (i : String) :
    (records.lookup (.str i) = none ∧ rows.find? (·.ident = i) = none) ∨
      ∃ a row, records.lookup (.str i) = some a ∧ rows.find? (·.ident = i) = some row ∧ RowOf (.str i, a) row := by
  induction h with
  | nil => exact .inl ⟨rfl, rfl⟩
  | @cons e row records rows he hrest ih =>
    obtain ⟨k, a⟩ := e
    obtain rfl : k = .str row.ident := he.key
    by_cases hi : row.ident = i
    · subst hi
      exact .inr ⟨a, row, by simp, by simp, he⟩
    · have hne : (Key.str i == Key.str row.ident) = false := by simpa using Ne.symm hi
      rw [List.lookup_cons, hne, List.find?_cons_of_neg (by simpa using hi)]
      exact ih

/-- A record that is replaced in its place goes with the row that is changed. -/
theorem replace_mirrored {i : String} {f : Row → Row} (h : List.Forall₂ RowOf records rows) (honce : (rows.map (·.ident)).Nodup)
    (hmem : i ∈ rows.map (·.ident)) (hf : ∀ r ∈ rows, r.ident = i → RowOf (.str i, a) (f r)) :
    List.Forall₂ RowOf (MemoryStore.replace (.str i) a records) (rows.map fun r => if r.ident = i then f r else r) := by
  induction h with
  | nil => cases hmem
  | @cons e row records rows he hrest ih =>
    obtain ⟨k, b⟩ := e
    obtain rfl : k = .str row.ident := he.key
    obtain ⟨hnew, honce⟩ := List.nodup_cons.mp honce
    by_cases hi : row.ident = i
    · subst hi
      have hothers : (rows.map fun r => if r.ident = row.ident then f r else r) = rows := by
        refine (List.map_congr_left fun r hr => if_neg fun heq => ?_).trans (List.map_id rows)
        exact hnew (List.mem_map.mpr ⟨r, hr, heq⟩)
      rw [MemoryStore.replace, if_pos rfl, List.map_cons, if_pos rfl, hothers]
      exact .cons (hf row List.mem_cons_self rfl) hrest
    · have hne : Key.str row.ident ≠ .str i := by simpa using hi
      rw [MemoryStore.replace, if_neg hne, List.map_cons, if_neg hi]
      refine .cons he (ih honce ?_ fun r hr => hf r (List.mem_cons_of_mem _ hr))
      exact (List.mem_cons.mp hmem).resolve_left (Ne.symm hi)

/-- Rows are read as their documents give the records. -/
theorem mapM_mirrored (h : List.Forall₂ RowOf records rows) (now : Timestamp) :
    rows.mapM (fun r => Stored.ofDoc now r.doc) = .ok ((records.map (·.2)).map asRead) := by
  induction h with
  | nil => rfl
  | cons he _ ih => exact Reading.mapM_cons_eq_ok.mpr ⟨_, _, ofDoc_toDoc he.kept now he.doc, ih, rfl⟩

theorem kept_mirrored (h : List.Forall₂ RowOf records rows) : ∀ a ∈ records.map (·.2), Kept a := by
  intro a ha
  obtain ⟨e, he, rfl⟩ := List.mem_map.mp ha
  obtain ⟨row, -, hrow⟩ := exists_of_forall₂ h.flip e he
  exact hrow.kept

end Rows

/-! ## Looking up -/

theorem Mirrors.lookup {m : MemoryStore α} {d : DocumentStore} (h : Mirrors m d) (i : String) :
    (m.lookup (.str i) = none ∧ d.row? i = none) ∨
      ∃ a row, m.lookup (.str i) = some a ∧ d.row? i = some row ∧ RowOf (.str i, a) row :=
  lookup_mirrored h.rows i

omit [Mirrored α] in
theorem DocumentStore.get_text (d : DocumentStore) (now : Timestamp) (i : String) :
    (d.get now (.str i) : Reading (Option α)) = match d.row? i with
      | some row => some <$> Stored.ofDoc now row.doc
      | none => .ok none := rfl

namespace Store.Mirrors

variable {s t : Store α} {a b : α}

theorem empty : (Backend.memory.store : Store α).Mirrors Backend.documents.store :=
  .of ⟨.nil, List.nodup_nil, rfl, fun _ h => by cases h⟩

theorem get (h : s.Mirrors t) (now : Timestamp) (i : String) :
    ∃ o, s.get now (.str i) = .ok o ∧ t.get now (.str i) = .ok (o.map asRead) ∧
      ∀ a, o = some a → Kept a ∧ Stored.ident a = .str i := by
  obtain ⟨h⟩ := h
  rename_i m d
  refine ⟨m.lookup (.str i), rfl, ?_⟩
  rw [Store.get, DocumentStore.get_text]
  rcases h.lookup i with ⟨hm, hd⟩ | ⟨a, row, hm, hd, hrow⟩
  · rw [hm, hd]
    exact ⟨rfl, fun _ h => by cases h⟩
  · rw [hm, hd]
    dsimp only
    rw [ofDoc_toDoc hrow.kept now hrow.doc]
    refine ⟨rfl, ?_⟩
    rintro _ ⟨⟩
    exact ⟨hrow.kept, hrow.ident.trans (congrArg (fun k => Value.scalar (.str k)) (Key.str.inj hrow.key).symm)⟩

theorem ofTenant (h : s.Mirrors t) (now : Timestamp) (tenant : String) :
    ∃ as, s.ofTenant now (.str tenant) = .ok as ∧ t.ofTenant now (.str tenant) = .ok (as.map asRead) ∧ ∀ a ∈ as, Kept a := by
  obtain ⟨⟨hrows, -, -, -⟩⟩ := h
  rename_i m d
  have hfilter : List.Forall₂ RowOf (m.records.filter fun e => (Stored.tenant e.2).same (.str tenant))
      (d.rows.filter (·.tenant = tenant)) := by
    refine List.rel_filter (fun e row he => ?_) hrows
    have hsame : (Stored.tenant e.2).same (.str tenant) = (row.tenant == tenant) := by
      rw [he.tenant]
      exact Scalar.same_str
    simp [hsame]
  have hof : m.ofTenant (.str tenant) = (m.records.filter fun e => (Stored.tenant e.2).same (.str tenant)).map (·.2) := by
    rw [MemoryStore.ofTenant, List.filter_map]
    rfl
  exact ⟨_, rfl, hof ▸ mapM_mirrored hfilter now, hof ▸ kept_mirrored hfilter⟩

theorem all (h : s.Mirrors t) (now : Timestamp) :
    ∃ as, s.all now = .ok as ∧ t.all now = .ok (as.map asRead) ∧ ∀ a ∈ as, Kept a := by
  obtain ⟨⟨hrows, -, -, -⟩⟩ := h
  exact ⟨_, rfl, mapM_mirrored hrows now, kept_mirrored hrows⟩

end Store.Mirrors

/-! ## Changing -/

namespace Mirrors

variable {m : MemoryStore α} {d : DocumentStore} {a b : α} {row : Row}

/-- A record and its row are put in under a new id. -/
theorem appended (h : Mirrors m d) (hrow : RowOf (.str row.ident, a) row) (hm : m.lookup (.str row.ident) = none)
    (hd : d.row? row.ident = none) (hkey : row.key.isSome → row.ident ≠ "") :
    Mirrors { m with
      records := MemoryStore.replace (.str row.ident) a m.records
      index := m.index ++ (DocumentStore.mk [row]).index } ⟨d.rows ++ [row]⟩ where
  rows := by
    rw [MemoryStore.replace_of_new hm]
    exact List.rel_append h.rows (.cons hrow .nil)
  once := by
    rw [List.map_append]
    refine List.nodup_append.mpr ⟨h.once, List.nodup_singleton _, fun i hi j hj heq => ?_⟩
    obtain ⟨r, hr, rfl⟩ := List.mem_map.mp hi
    have hnone := List.find?_eq_none.mp hd r hr
    exact hnone (decide_eq_true (heq.trans (List.mem_singleton.mp hj)))
  index := by
    rw [h.index]
    exact (List.filterMap_append ..).symm
  named r hr := by
    rcases List.mem_append.mp hr with hr | hr
    · exact h.named r hr
    · exact List.mem_singleton.mp hr ▸ hkey

/-- The same without a second key. -/
theorem added (h : Mirrors m d) (hrow : RowOf (.str row.ident, a) row) (hm : m.lookup (.str row.ident) = none)
    (hd : d.row? row.ident = none) (hkey : row.key = none) :
    Mirrors (m.store (.str row.ident) a) ⟨d.rows ++ [row]⟩ := by
  have happended := h.appended hrow hm hd (by simp [hkey])
  have hindex : (DocumentStore.mk [row]).index = [] := by simp [DocumentStore.index, hkey]
  rwa [hindex, List.append_nil] at happended

/-- A record and its row are changed in their places. -/
theorem replaced (h : Mirrors m d) {i : String} {f : Row → Row} (hmem : i ∈ d.rows.map (·.ident))
    (hf : ∀ r ∈ d.rows, r.ident = i → RowOf (.str i, a) (f r)) (hident : ∀ r, (f r).ident = r.ident)
    (hkey : ∀ r, (f r).key = r.key) : Mirrors (m.store (.str i) a) (d.mapRow i f) := by
  have hsame : ∀ r : Row, (if r.ident = i then f r else r).ident = r.ident ∧ (if r.ident = i then f r else r).key = r.key := by
    intro r
    split
    · exact ⟨hident r, hkey r⟩
    · exact ⟨rfl, rfl⟩
  refine ⟨replace_mirrored h.rows h.once hmem hf, ?_, ?_, ?_⟩
  · have hidents : (d.mapRow i f).rows.map (·.ident) = d.rows.map (·.ident) := by
      rw [DocumentStore.mapRow, List.map_map]
      exact List.map_congr_left fun r _ => (hsame r).1
    exact hidents ▸ h.once
  · refine h.index.trans ?_
    rw [DocumentStore.index, DocumentStore.index, DocumentStore.mapRow, List.filterMap_map]
    refine List.filterMap_congr fun r _ => ?_
    simp only [Function.comp_apply, (hsame r).1, (hsame r).2]
  · intro r hr
    obtain ⟨r', hr', rfl⟩ := List.mem_map.mp hr
    rw [(hsame r').1, (hsame r').2]
    exact h.named r' hr'

theorem erased (h : Mirrors m d) (i : String) : Mirrors (m.erase (.str i)) ⟨d.rows.filter (·.ident ≠ i)⟩ where
  rows := by
    refine List.rel_filter (fun e row he => ?_) h.rows
    simp [he.key]
  once := (List.filter_sublist.map _).nodup h.once
  index := by
    change m.index.filter _ = _
    rw [h.index, DocumentStore.index, DocumentStore.index, List.filter_filterMap, List.filterMap_filter]
    refine List.filterMap_congr fun r _ => ?_
    cases r.key with
    | none => simp
    | some key => by_cases hi : r.ident = i <;> simp [hi]
  named r hr := h.named r (List.mem_of_mem_filter hr)

theorem lookup_index (key : String) (rows : List Row) :
    (DocumentStore.mk rows).index.lookup key = (rows.find? (·.key = some key)).map fun r => .str r.ident := by
  induction rows with
  | nil => rfl
  | cons r rows ih =>
    unfold DocumentStore.index at ih ⊢
    cases hkey : r.key with
    | none => simpa [hkey] using ih
    | some other =>
      by_cases hother : other = key
      · simp [hkey, hother]
      · have hne : (key == other) = false := by simpa using Ne.symm hother
        simpa [hkey, hother, List.lookup_cons, hne] using ih

/-- A second key leads to a record just when it leads to a row, and then the row holds the record. -/
theorem byIndex (h : Mirrors m d) (key : String) :
    (m.byIndex key = none ∧ m.index.lookup key = none ∧ d.rows.find? (·.key = some key) = none) ∨
      ∃ old row, m.byIndex key = some (.str row.ident, old) ∧ d.rows.find? (·.key = some key) = some row ∧
        row ∈ d.rows ∧ RowOf (.str row.ident, old) row := by
  have hindex : m.index.lookup key = (d.rows.find? (·.key = some key)).map fun r => .str r.ident :=
    h.index ▸ lookup_index key d.rows
  cases hfound : d.rows.find? (·.key = some key) with
  | none =>
    rw [hfound] at hindex
    refine .inl ⟨?_, hindex, rfl⟩
    rw [MemoryStore.byIndex, hindex]
    rfl
  | some row =>
    rw [hfound] at hindex
    have hmem := List.mem_of_find?_eq_some hfound
    have hkey : row.key = some key := by simpa using List.find?_some hfound
    have hnamed : row.ident ≠ "" := h.named row hmem (by rw [hkey]; rfl)
    obtain ⟨-, hnone⟩ | ⟨old, row', hold, hrow', hrowOf⟩ := h.lookup row.ident
    · exact absurd (List.find?_eq_none.mp hnone row hmem) (by simp)
    · have hident : row'.ident = row.ident := by simpa using List.find?_some hrow'
      obtain rfl : row' = row := List.inj_on_of_nodup_map h.once (List.mem_of_find?_eq_some hrow') hmem hident
      refine .inr ⟨old, row', MemoryStore.byIndex_eq_some.mpr ⟨hindex, ?_, hold⟩, rfl, hmem, hrowOf⟩
      simpa [MemoryStore.isEmptyKey] using hnamed

end Mirrors

namespace Store.Mirrors

variable {s t : Store α} {a b : α}

/-- The same record, or one with the same document, is put into both stores. -/
theorem put (h : s.Mirrors t) (ha : Kept a) (hab : Stored.Same a b) :
    ∃ s' t', s.put a = .ok s' ∧ t.put b = .ok t' ∧ s'.Mirrors t' := by
  obtain ⟨h⟩ := h
  rename_i m d
  obtain ⟨row, hrowOf, hkey, hrow⟩ := exists_rowOf ha hab none
  obtain ⟨d', hd', hsame⟩ : ∃ d', d.put b = .ok d' ∧ SupplyGate.Mirrors (m.store (.str row.ident) a) d' := by
    simp only [DocumentStore.put, hrowOf, Reading.ok_bind]
    rcases h.lookup row.ident with ⟨hm, hd⟩ | ⟨old, found, -, hd, -⟩
    · rw [hd]
      exact ⟨_, rfl, h.added hrow hm hd hkey⟩
    · rw [hd]
      have hfound : found.ident = row.ident := by simpa using List.find?_some hd
      refine ⟨_, rfl, h.replaced (List.mem_map.mpr ⟨found, List.mem_of_find?_eq_some hd, hfound⟩) ?_ (fun _ => rfl) fun _ => rfl⟩
      exact fun r _ hr => ⟨ha, congrArg Key.str hr.symm, hr ▸ hrow.ident, hrow.tenant, hrow.doc⟩
  refine ⟨.memory (m.store (.str row.ident) a), .documents d', ?_, ?_, .of hsame⟩
  · exact Store.put_memory.mpr ⟨_, MemoryStore.put_ok.mpr ⟨_, MemoryStore.keyOf_text hrow.ident, rfl⟩, rfl⟩
  · rw [Store.put, hd']
    rfl

/-- The same record, or one with the same document, is added to both stores, or refused by both. -/
theorem add (h : s.Mirrors t) (ha : Kept a) (hab : Stored.Same a b) :
    (∃ f, s.add a = .error f ∧ t.add b = .error f) ∨
      ∃ s' t', s.add a = .ok s' ∧ t.add b = .ok t' ∧ s'.Mirrors t' := by
  obtain ⟨h⟩ := h
  rename_i m d
  obtain ⟨row, hrowOf, hkey, hrow⟩ := exists_rowOf ha hab none
  have hadd : m.add a = if (m.lookup (.str row.ident)).isSome then .error (.naming .duplicate (Stored.ident a))
      else .ok (m.store (.str row.ident) a) := by
    rw [MemoryStore.add, MemoryStore.keyOf_text hrow.ident, Reading.ok_bind]
    split <;> rfl
  have hadd' : d.add b = if (d.row? row.ident).isSome then .error (.naming .duplicate (Stored.ident a))
      else .ok ⟨d.rows ++ [row]⟩ := by
    rw [DocumentStore.add, hab.ident, hrow.ident, hrowOf]
    change (if (d.row? row.ident).isSome then _ else _ : Reading DocumentStore) = _
    split <;> rfl
  rcases h.lookup row.ident with ⟨hm, hd⟩ | ⟨old, found, hm, hd, -⟩
  · rw [hm] at hadd
    rw [hd] at hadd'
    refine .inr ⟨.memory (m.store (.str row.ident) a), .documents ⟨d.rows ++ [row]⟩, ?_, ?_, .of (h.added hrow hm hd hkey)⟩
    · exact Store.add_memory.mpr ⟨_, hadd, rfl⟩
    · rw [Store.add, hadd']
      rfl
  · rw [hm] at hadd
    rw [hd] at hadd'
    refine .inl ⟨.naming .duplicate (Stored.ident a), ?_, ?_⟩
    · rw [Store.add, hadd]
      rfl
    · rw [Store.add, hadd']
      rfl

theorem delete (h : s.Mirrors t) (i : String) :
    ∃ found s' t', s.delete (.str i) = .ok (found, s') ∧ t.delete (.str i) = .ok (found, t') ∧ s'.Mirrors t' := by
  obtain ⟨h⟩ := h
  rename_i m d
  have hm : m.delete (.str i) = .ok (if (m.lookup (.str i)).isSome then (true, m.erase (.str i)) else (false, m)) := by
    change (if (m.lookup (.str i)).isSome then _ else _ : Reading (Bool × MemoryStore α)) = _
    split <;> rfl
  have hd : d.delete (.str i) =
      .ok (if (d.row? i).isSome then (true, ⟨d.rows.filter (·.ident ≠ i)⟩) else (false, d)) := by
    change (if (d.row? i).isSome then _ else _ : Reading (Bool × DocumentStore)) = _
    split <;> rfl
  rw [Store.delete, Store.delete, hm, hd]
  rcases h.lookup i with ⟨hnone, hnone'⟩ | ⟨a, row, hsome, hsome', -⟩
  · rw [hnone, hnone']
    exact ⟨_, _, _, rfl, rfl, .of h⟩
  · rw [hsome, hsome']
    exact ⟨_, _, _, rfl, rfl, .of (h.erased i)⟩

/-- A change of records that keeps ids and tenants, and a change of what their documents give. -/
structure Changes (f g : α → α) : Prop where
  kept {a : α} (h : Kept a) : Kept (f a)
  ident (a : α) : Stored.ident (f a) = Stored.ident a
  tenant (a : α) : Stored.tenant (f a) = Stored.tenant a
  asRead (a : α) : g (asRead a) = Mirrored.asRead (f a)

/-- The record that a second key stands for is changed in both stores, or a record with a free id is added to both. -/
theorem getOrAdd {m : MemoryStore α} (h : (Store.memory m).Mirrors t) (now : Timestamp) (key : String) {f g : α → α}
    (hfg : Changes f g) (ha : Kept a) {i : String} (hident : Stored.ident a = .str i) (hfree : m.lookup (.str i) = none)
    (hname : i ≠ "") :
    ∃ found s' t', (Store.memory m).getOrAdd now key a f = .ok (found, s') ∧
      t.getOrAdd now key (asRead a) g = .ok (⟨asRead found.record, found.previous.map asRead⟩, t') ∧ s'.Mirrors t' ∧
        Kept found.record := by
  cases h with | of h => ?_
  rename_i d
  rcases h.byIndex key with ⟨hm, hnew, hd⟩ | ⟨old, row, hm, hd, hmem, hrow⟩
  · obtain ⟨row, hrowOf, hkey, hrow⟩ := exists_rowOf ha (same_asRead a) (some key)
    obtain rfl : row.ident = i := Scalar.str.inj (Value.scalar.inj (hrow.ident.symm.trans hident))
    have hrow? : d.row? row.ident = none := by
      rcases h.lookup row.ident with ⟨-, hnone⟩ | ⟨_, _, hsome, -⟩
      · exact hnone
      · rw [hfree] at hsome
        cases hsome
    have happended := h.appended hrow hfree hrow? fun _ => hname
    have hindex : (DocumentStore.mk [row]).index = [(key, .str row.ident)] := by simp [DocumentStore.index, hkey]
    rw [hindex, ← MemoryStore.setIndex_of_new hnew] at happended
    refine ⟨⟨a, none⟩, _, .documents ⟨d.rows ++ [row]⟩, ?_, ?_, .of happended, ha⟩
    · refine Store.getOrAdd_memory.mpr ⟨_, ?_, rfl⟩
      exact MemoryStore.getOrAdd_of_none hm (MemoryStore.keyOf_text hident) hfree
    · simp only [Store.getOrAdd, DocumentStore.getOrAdd, hd, hrowOf, Reading.ok_bind, hrow?]
      rfl
  · obtain ⟨doc, hdocOf, hdoc⟩ := exists_docOf (hfg.kept hrow.kept) (same_asRead (f old))
    have hident' := (hfg.ident old).trans hrow.ident
    have hreplaced : SupplyGate.Mirrors (m.store (.str row.ident) (f old)) (d.mapRow row.ident fun r => { r with doc }) := by
      refine h.replaced (List.mem_map_of_mem hmem) (fun r hr hri => ?_) (fun _ => rfl) fun _ => rfl
      obtain rfl : r = row := List.inj_on_of_nodup_map h.once hr hmem hri
      exact ⟨hfg.kept hrow.kept, rfl, hident', (hfg.tenant old).trans hrow.tenant, hdoc⟩
    refine ⟨⟨f old, some old⟩, _, .documents (d.mapRow row.ident fun r => { r with doc }), ?_, ?_, .of hreplaced,
      hfg.kept hrow.kept⟩
    · refine Store.getOrAdd_memory.mpr ⟨_, ?_, rfl⟩
      exact MemoryStore.getOrAdd_of_some hm (MemoryStore.keyOf_text hident')
    · simp only [Store.getOrAdd, DocumentStore.getOrAdd, hd, ofDoc_toDoc hrow.kept now hrow.doc, Reading.ok_bind, hfg.asRead, hdocOf]
      rfl

end Store.Mirrors

end SupplyGate
