import SupplyGate.Proofs.Inventory.Documents
import SupplyGate.Proofs.Value.Overlay
import SupplyGate.Risk.Assessment

/-!
# Documents of assessments

Business contexts, criteria, factors, mitigations and assessments that were read from documents are read again
from their own documents.
-/

namespace SupplyGate

instance : Scale.Faithful FactorCategory := ⟨fun a => by cases a <;> rfl⟩
instance : Scale.Faithful MitigationType := ⟨fun a => by cases a <;> rfl⟩
instance : Scale.Faithful Effort := ⟨fun a => by cases a <;> rfl⟩
instance : Scale.Faithful RiskLevel := ⟨fun a => by cases a <;> rfl⟩
instance : Scale.Faithful Criticality := ⟨fun a => by cases a <;> rfl⟩
instance : Scale.Capital Criticality := ⟨fun a => by cases a <;> rfl⟩
instance : Scale.Faithful Environment := ⟨fun a => by cases a <;> rfl⟩
instance : Scale.Capital Environment := ⟨fun a => by cases a <;> rfl⟩
instance : Scale.Faithful DataClass := ⟨fun a => by cases a <;> rfl⟩
instance : Scale.Capital DataClass := ⟨fun a => by cases a <;> rfl⟩

/-! ## Factors and mitigations -/

/-- The time of detection is fixed. -/
def RiskFactor.Documented (f : RiskFactor) : Prop := f.detectedAt.Fixed

namespace RiskFactor

theorem documented_ofDoc {now : Timestamp} (hnow : now.Fixed) {doc : Value} {f : RiskFactor} (h : ofDoc now doc = .ok f) :
    f.Documented := by
  simp only [ofDoc, Reading.bind_eq_ok, Reading.pure_eq_ok] at h
  repeat obtain ⟨_, _, h⟩ := h
  exact Value.fixed_getD (Value.fixed_of_asTimestamp ‹_›) hnow

theorem ofDoc_toDoc {f : RiskFactor} (h : f.Documented) (now : Timestamp) : ofDoc now f.toDoc = .ok f := by
  simp [ofDoc, toDoc, List.lookup_cons, Reading.ok_bind, Value.asTimestamp_format h]

end RiskFactor

theorem Mitigation.ofDoc_toDoc (m : Mitigation) : ofDoc m.toDoc = .ok m := by
  simp [ofDoc, toDoc, List.lookup_cons, Reading.ok_bind]

/-! ## Criteria -/

namespace Criteria

/-- The labels of the standard tables are texts, each once. -/
theorem apart_standard (tenantId : Value) : ∀ table ∈ (standard tenantId).tables,
    Value.Apart table.2 ∧ ∀ e ∈ table.2, e.1.same e.1 = true := by
  have hlabels : ∀ rows : List (String × Value), (rows.map (·.1)).Nodup →
      Value.Apart (WeightTable.of rows) ∧ ∀ e ∈ WeightTable.of rows, e.1.same e.1 = true := by
    intro rows hrows
    refine ⟨List.pairwise_map.mpr ((List.pairwise_map.mp hrows).imp fun hne => ?_), fun e he => ?_⟩
    · rw [Scalar.same_str]
      exact beq_false_of_ne hne
    · obtain ⟨row, -, rfl⟩ := List.mem_map.mp he
      rw [Scalar.same_str, beq_self_eq_true]
  intro table htable
  simp only [tables, List.mem_cons, List.not_mem_nil, or_false] at htable
  rcases htable with rfl | rfl | rfl | rfl | rfl <;> exact hlabels _ (by simp [List.nodup_cons])

/-- Every table has the labels of the standard one first, and each label once. -/
def Documented (c : Criteria) : Prop :=
  List.Forall₂ (fun base table => Value.Covers base.2 table.2) (standard c.tenantId).tables c.tables

theorem covers_readTable {doc : Value} {name : String} {base table : WeightTable} (hbase : Value.Apart base)
    (h : readTable doc name base = .ok table) : Value.Covers base table := by
  simp only [readTable, Reading.bind_eq_ok, Reading.pure_eq_ok] at h
  obtain ⟨_, _, added, -, rfl⟩ := h
  exact (Value.Covers.refl hbase).overlay added

theorem documented_ofDoc {doc : Value} {c : Criteria} (h : ofDoc doc = .ok c) : c.Documented := by
  simp only [ofDoc, Reading.bind_eq_ok, Reading.pure_eq_ok] at h
  obtain ⟨tenantId, -, _, hvulnerability, _, hdependency, _, henvironmental, _, hbusiness, _, hexploitability, rfl⟩ := h
  have hapart := fun table htable => (apart_standard tenantId table htable).1
  simp only [tables, List.forall_mem_cons] at hapart
  obtain ⟨hapart₁, hapart₂, hapart₃, hapart₄, hapart₅, -⟩ := hapart
  exact .cons (covers_readTable hapart₁ hvulnerability) <| .cons (covers_readTable hapart₂ hdependency) <|
    .cons (covers_readTable hapart₃ henvironmental) <| .cons (covers_readTable hapart₄ hbusiness) <|
    .cons (covers_readTable hapart₅ hexploitability) .nil

theorem ofDoc_toDoc {c : Criteria} (h : c.Documented) : ofDoc c.toDoc = .ok c := by
  have hself := fun table htable => (apart_standard c.tenantId table htable).2
  simp only [Documented, tables, List.forall₂_cons, List.forall_mem_cons] at h hself
  obtain ⟨hvulnerability, hdependency, henvironmental, hbusiness, hexploitability, -⟩ := h
  obtain ⟨hself₁, hself₂, hself₃, hself₄, hself₅, -⟩ := hself
  simp [ofDoc, toDoc, tables, List.lookup_cons, Reading.ok_bind, readTable, Value.asOverlay, hvulnerability.overlay_eq hself₁,
    hdependency.overlay_eq hself₂, henvironmental.overlay_eq hself₃, hbusiness.overlay_eq hself₄,
    hexploitability.overlay_eq hself₅]

end Criteria

/-! ## Business contexts -/

namespace FieldList

/-- The record has a value for each of the fields, in their order. -/
def Fills (spec : FieldList) (fields : List (String × Value)) : Prop := fields.map (·.1) = spec.fields.map (·.1)

theorem fills_of_fill {spec : FieldList} {v : Value} {fields : List (String × Value)} (h : spec.fill v = .ok fields) :
    spec.Fills fields := by
  unfold fill at h
  split at h
  · dsimp only at h
    split at h
    · cases h
    · cases h
    · split at h
      · cases h
        rw [Fills, List.map_map]
        rfl
      · cases h
  · cases h

variable {spec : FieldList} {fields : List (String × Value)}

theorem Fills.unknownKey_eq_none (h : spec.Fills fields) :
    unknownKey (spec.fields.map (·.1)) (fields.map fun (k, v) => (.str k, v)) = none := by
  unfold unknownKey
  dsimp only
  rw [Value.keys_fields, show fields.map (·.1) = spec.fields.map (·.1) from h, Option.or_eq_none_iff, List.find?_eq_none,
    List.find?_eq_none]
  refine ⟨List.forall_mem_map.mpr fun _ _ => by simp, List.forall_mem_map.mpr fun name hname => ?_⟩
  simpa using hname

theorem Fills.lookup (hspec : (spec.fields.map (·.1)).Nodup) (h : spec.Fills fields) {field : String × Value}
    (hfield : field ∈ fields) : fields.lookup field.1 = some field.2 :=
  lookup_of_mem (h ▸ hspec) hfield

theorem Fills.exists_lookup (hspec : (spec.fields.map (·.1)).Nodup) (h : spec.Fills fields)
    {field : String × Option Value} (hfield : field ∈ spec.fields) : ∃ v, fields.lookup field.1 = some v := by
  have hname : field.1 ∈ fields.map (·.1) := h ▸ List.mem_map_of_mem hfield
  obtain ⟨given, hgiven, hname⟩ := List.mem_map.mp hname
  exact ⟨given.2, hname ▸ h.lookup hspec hgiven⟩

/-- No field is missing. -/
theorem Fills.missing_eq_nil (hspec : (spec.fields.map (·.1)).Nodup) (h : spec.Fills fields) :
    (spec.fields.filter fun (name, default) => default.isNone && (fields.lookup name).isNone) = [] := by
  rw [List.filter_eq_nil_iff]
  intro field hfield
  obtain ⟨v, hv⟩ := h.exists_lookup hspec hfield
  simp [hv]

/-- No default is taken. -/
theorem Fills.filled_eq (hspec : (spec.fields.map (·.1)).Nodup) (h : spec.Fills fields) :
    (spec.fields.map fun (name, default) => (name, ((fields.lookup name).or default).getD .null)) = fields := by
  calc _ = (spec.fields.map (·.1)).map fun name => (name, (fields.lookup name).getD .null) := by
        rw [List.map_map]
        refine List.map_congr_left fun field hfield => ?_
        obtain ⟨v, hv⟩ := h.exists_lookup hspec hfield
        simp [hv]
    _ = fields.map fun field => (field.1, (fields.lookup field.1).getD .null) := by
        rw [← h, List.map_map]
        rfl
    _ = fields := by
        refine (List.map_congr_left fun field hfield => ?_).trans (List.map_id _)
        rw [h.lookup hspec hfield]
        rfl

/-- A record with all its fields is filled in by its own document. -/
theorem fill_fields (hspec : (spec.fields.map (·.1)).Nodup) (h : spec.Fills fields) :
    spec.fill (.fields fields) = .ok fields := by
  unfold fill Value.fields
  dsimp only
  simp only [h.unknownKey_eq_none, Value.find?_fields, h.missing_eq_nil hspec, h.filled_eq hspec, List.map_nil, List.isEmpty_nil,
    if_true]

theorem nodup_maintenanceWindow : (maintenanceWindow.fields.map (·.1)).Nodup := by decide

theorem nodup_stakeholder : (stakeholder.fields.map (·.1)).Nodup := by decide

end FieldList

/-- Windows and stakeholders have all their fields, and the application is operated on some days. -/
structure BusinessContext.Documented (c : BusinessContext) : Prop where
  windows : ∀ w ∈ c.windows, FieldList.maintenanceWindow.Fills w
  stakeholders : ∀ s ∈ c.stakeholders, FieldList.stakeholder.Fills s
  days : c.days ≠ []

namespace BusinessContext

theorem asList_ne_nil {v : Value} {items : List Value} (hv : v.truthy = true) (h : v.asList = .ok items) : items ≠ [] := by
  rintro rfl
  cases v with
  | list items =>
    cases h
    cases hv
  | map entries =>
    cases entries with
    | nil => cases hv
    | cons e entries => cases h
  | scalar s =>
    cases s with
    | str s =>
      have hempty : s.toList = [] := by simpa [Value.asList] using h
      obtain rfl := String.toList_eq_nil_iff.mp hempty
      cases hv
    | _ => cases h

theorem documented_ofDoc {doc : Value} {c : BusinessContext} (h : ofDoc doc = .ok c) : c.Documented := by
  simp only [ofDoc, Reading.bind_eq_ok, Reading.pure_eq_ok] at h
  repeat obtain ⟨_, _, h⟩ := h
  refine ⟨forall_asRecords (fun _ _ => FieldList.fills_of_fill) ‹_›,
    forall_asRecords (fun _ _ => FieldList.fills_of_fill) ‹_›, ?_⟩
  have hdays : ∀ v : Value, (v.orElse (.list workingDays)).truthy = true := fun v => by
    unfold Value.orElse
    split
    · assumption
    · rfl
  exact asList_ne_nil (hdays _) ‹_›

/-- The document of a stakeholder has its fields, and is its own document. -/
theorem stakeholderDoc_ok {fields : List (String × Value)} {doc : Value} (h : stakeholderDoc fields = .ok doc) :
    ∃ listed, doc = .fields listed ∧ listed.map (·.1) = fields.map (·.1) ∧ stakeholderDoc listed = .ok doc := by
  simp only [stakeholderDoc, Reading.bind_eq_ok, Reading.pure_eq_ok] at h ⊢
  obtain ⟨listed, hlisted, rfl⟩ := h
  have hfields : List.Forall₂ (fun field given => given.1 = field.1 ∧
      (given = field ∧ field.1 ≠ "responsibilities" ∨ ∃ items, given.2 = .list items)) fields listed := by
    refine (mapM_ok hlisted).imp fun field given hgiven => ?_
    split at hgiven
    · simp only [Reading.bind_eq_ok, Reading.pure_eq_ok] at hgiven
      obtain ⟨items, -, rfl⟩ := hgiven
      exact ⟨rfl, .inr ⟨items, rfl⟩⟩
    · next hname =>
      cases hgiven
      exact ⟨rfl, .inl ⟨rfl, by simpa using hname⟩⟩
  have hkeys : fields.map (·.1) = listed.map (·.1) := by
    rw [← List.forall₂_eq_eq_eq, List.forall₂_map_left_iff, List.forall₂_map_right_iff]
    exact hfields.imp fun _ _ hgiven => hgiven.1.symm
  refine ⟨listed, rfl, hkeys.symm, listed, mapM_self fun given hgiven => ?_, rfl⟩
  obtain ⟨field, -, -, ⟨rfl, hname⟩ | ⟨items, hitems⟩⟩ := exists_of_forall₂ hfields given hgiven
  · rw [if_neg (by simpa using hname)]
    rfl
  · split
    · rw [hitems]
      exact congrArg Except.ok (Prod.ext rfl hitems.symm)
    · rfl

/-- The documents of stakeholders give stakeholders with these documents. -/
theorem stakeholderDocs_ok {stakeholders : List (List (String × Value))} {docs : List Value}
    (hdocs : stakeholders.mapM stakeholderDoc = .ok docs) (hfills : ∀ s ∈ stakeholders, FieldList.stakeholder.Fills s) :
    ∃ listed, docs.mapM FieldList.stakeholder.fill = .ok listed ∧ listed.mapM stakeholderDoc = .ok docs := by
  induction stakeholders generalizing docs with
  | nil =>
    cases hdocs
    exact ⟨[], rfl, rfl⟩
  | cons s stakeholders ih =>
    obtain ⟨doc, rest, hdoc, hrest, rfl⟩ := Reading.mapM_cons_eq_ok.mp hdocs
    obtain ⟨listed, rfl, hkeys, hagain⟩ := stakeholderDoc_ok hdoc
    obtain ⟨more, hmore, hmoreDocs⟩ := ih hrest fun s' hs' => hfills s' (List.mem_cons_of_mem _ hs')
    have hfill := FieldList.fill_fields FieldList.nodup_stakeholder (hkeys.trans (hfills s List.mem_cons_self))
    exact ⟨listed :: more, Reading.mapM_cons_eq_ok.mpr ⟨_, _, hfill, hmore, rfl⟩,
      Reading.mapM_cons_eq_ok.mpr ⟨_, _, hagain, hmoreDocs, rfl⟩⟩

/-- The context that the document of a context describes has this document again. -/
theorem recoded {c : BusinessContext} (h : c.Documented) {doc : Value} (hdoc : c.toDoc = .ok doc) :
    ∃ c', ofDoc doc = .ok c' ∧ c'.toDoc = .ok doc := by
  simp only [toDoc, Reading.bind_eq_ok, Reading.pure_eq_ok] at hdoc
  obtain ⟨stakeholders, hstakeholders, rfl⟩ := hdoc
  obtain ⟨listed, hfill, hagain⟩ := stakeholderDocs_ok hstakeholders h.stakeholders
  have hwindows := mapM_docs fun w hw => FieldList.fill_fields FieldList.nodup_maintenanceWindow (h.windows w hw)
  have hdays : (Value.list c.days).orElse (.list workingDays) = .list c.days := by
    have htruthy : (Value.list c.days).truthy = true := by simp [Value.truthy, h.days]
    rw [Value.orElse, if_pos htruthy]
  have hhours : (Value.list [c.hours.1, c.hours.2]).orElse (.list ["09:00", "17:00"]) = .list [c.hours.1, c.hours.2] := rfl
  refine ⟨{ c with stakeholders := listed }, ?_, by simp [toDoc, hagain]⟩
  simp [ofDoc, default, List.lookup_cons, Reading.ok_bind, hwindows, hfill, hdays, hhours, Value.itemAt]

end BusinessContext

/-! ## Assessments -/

/-- All parts of the assessment are as documents give them, and its times are fixed. -/
structure Assessment.Documented (a : Assessment) : Prop where
  dependency : a.dependency.Documented
  vulnerabilities : ∀ v ∈ a.vulnerabilities, v.Documented
  assessedAt : ∀ t ∈ a.assessedAt, t.Fixed
  factors : ∀ f ∈ a.factors, f.Documented
  validUntil : ∀ t ∈ a.validUntil, t.Fixed
  lastUpdated : ∀ t ∈ a.lastUpdated, t.Fixed
  context : ∀ c ∈ a.businessContext, c.Documented

namespace Assessment

theorem documented_ofDoc {now : Timestamp} (hnow : now.Fixed) {doc : Value} {a : Assessment} (h : ofDoc now doc = .ok a) :
    a.Documented := by
  simp only [ofDoc, Reading.bind_eq_ok] at h
  repeat obtain ⟨_, _, h⟩ := h
  -- with a business context, and without
  split at h <;> simp only [Reading.bind_eq_ok, Reading.pure_eq_ok] at h <;> repeat obtain ⟨_, _, h⟩ := h
  all_goals
    subst_vars
    refine {
      dependency := Dependency.documented_ofDoc ‹_›
      vulnerabilities := forall_asRecords (fun _ _ => Vulnerability.documented_ofDoc) ‹_›
      assessedAt := Value.fixed_of_asTimestamp ‹_›
      factors := forall_asRecords (fun _ _ => RiskFactor.documented_ofDoc hnow) ‹_›
      validUntil := Value.fixed_of_asTimestamp ‹_›
      lastUpdated := Value.fixed_of_asTimestamp ‹_›
      context := ?_ }
  · rintro _ ⟨⟩
    exact BusinessContext.documented_ofDoc ‹_›
  · rintro _ ⟨⟩

/-- The assessment that the document of an assessment describes has this document again. -/
theorem recoded {a : Assessment} (h : a.Documented) (now : Timestamp) {doc : Value} (hdoc : a.toDoc = .ok doc) :
    ∃ a', ofDoc now doc = .ok a' ∧ a'.toDoc = .ok doc := by
  have hvulnerabilities := mapM_docs fun v hv => Vulnerability.ofDoc_toDoc (h.vulnerabilities v hv)
  have hfactors := mapM_docs fun f hf => RiskFactor.ofDoc_toDoc (h.factors f hf) now
  have hmitigations := mapM_docs fun m (_ : m ∈ a.mitigations) => Mitigation.ofDoc_toDoc m
  have hdependency := Dependency.ofDoc_toDoc h.dependency
  have hassessed := Value.asTimestamp_toDoc h.assessedAt
  have hvalid := Value.asTimestamp_toDoc h.validUntil
  have hupdated := Value.asTimestamp_toDoc h.lastUpdated
  cases hcontext : a.businessContext with
  | none =>
    simp only [toDoc, hcontext, Reading.bind_eq_ok, Reading.pure_eq_ok] at hdoc
    obtain ⟨_, rfl, rfl⟩ := hdoc
    refine ⟨a, ?_, by simp [toDoc, hcontext]⟩
    simp [ofDoc, List.lookup_cons, Reading.ok_bind, Value.ofRecords, hdependency, hvulnerabilities, hassessed, hfactors, hmitigations,
      hvalid, hupdated, Value.truthy, Scalar.truthy]
    rw [← hcontext]
  | some c =>
    simp only [toDoc, hcontext, Reading.bind_eq_ok, Reading.pure_eq_ok] at hdoc
    obtain ⟨context, hc, rfl⟩ := hdoc
    obtain ⟨c', hread, hwritten⟩ := BusinessContext.recoded (h.context c hcontext) hc
    have htruthy : context.truthy = true := by
      simp only [BusinessContext.toDoc, Reading.bind_eq_ok, Reading.pure_eq_ok] at hc
      obtain ⟨_, -, rfl⟩ := hc
      rfl
    refine ⟨{ a with businessContext := some c' }, ?_, by simp [toDoc, hwritten]⟩
    simp [ofDoc, List.lookup_cons, Reading.ok_bind, Value.ofRecords, hdependency, hvulnerabilities, hassessed, hfactors, hmitigations,
      hvalid, hupdated, htruthy, hread]

end Assessment

end SupplyGate
