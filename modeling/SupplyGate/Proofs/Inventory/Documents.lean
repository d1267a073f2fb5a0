import SupplyGate.Inventory.Dependency
import SupplyGate.Inventory.Vulnerability
import SupplyGate.Proofs.Policy.PlainText
import SupplyGate.Proofs.Value.Documents

/-!
# Documents of dependencies and vulnerabilities

A dependency or a vulnerability that was read from a document is read again from its own document. Of a
dependency this asks that its last update is null or fixed; of a vulnerability, that it has no CVE number to
fall back to where its id is empty.
-/

namespace SupplyGate

instance : Scale.Faithful Severity := ⟨fun a => by cases a <;> rfl⟩
instance : Scale.Capital Severity := ⟨fun a => by cases a <;> rfl⟩
instance : Scale.Faithful DependencyType := ⟨fun a => by cases a <;> rfl⟩
instance : Scale.Faithful DependencyScope := ⟨fun a => by cases a <;> rfl⟩

@[simp] theorem DependencyType.readLower_value (t : DependencyType) : Scale.readLower (Scale.value t) = .ok t := by
  cases t <;> rfl

@[simp] theorem DependencyScope.readLower_value (s : DependencyScope) : Scale.readLower (Scale.value s) = .ok s := by
  cases s <;> rfl

/-! ## Dependencies -/

/-- The last update is as a document gives it. -/
def Dependency.Documented (d : Dependency) : Prop := d.lastUpdate = .null ∨ ∃ t, t.Fixed ∧ d.lastUpdate = .time t

namespace Dependency

theorem documented_of {d : Dependency} {updated : Option Timestamp} (h : ∀ t ∈ updated, t.Fixed)
    (hd : d.lastUpdate = (updated.map Value.time).getD .null := by rfl) : d.Documented := by
  cases updated with
  | none => exact .inl hd
  | some t => exact .inr ⟨t, h t rfl, hd⟩

theorem documented_ofDoc {doc : Value} {d : Dependency} (h : ofDoc doc = .ok d) : d.Documented := by
  simp only [ofDoc, Reading.bind_eq_ok, Reading.pure_eq_ok] at h
  -- from step to step of the reading, to the record that it gives
  repeat obtain ⟨_, _, h⟩ := h
  exact documented_of (Value.fixed_of_asTimestamp ‹_›)

theorem ofDoc_toDoc {d : Dependency} (h : d.Documented) : ofDoc d.toDoc = .ok d := by
  obtain ⟨name, version, ecosystem, type, scope, licenses, lastUpdate, packageFile, description, repository, maintainers,
    downloads, metadata⟩ := d
  simp only [Documented] at h
  rcases h with rfl | ⟨t, ht, rfl⟩
  · simp [ofDoc, toDoc, List.lookup_cons, Reading.ok_bind, Value.asTimestamp]
  · simp [ofDoc, toDoc, List.lookup_cons, Reading.ok_bind, Value.asTimestamp_format ht]

end Dependency

/-! ## Vulnerabilities -/

theorem StartsNumber.ne_empty {s : String} (h : StartsNumber s.toList) : s ≠ "" := by
  rintro rfl
  obtain ⟨c, rest, hcons, -⟩ := h
  cases hcons

/-- A value that stands for something has a text. -/
theorem Value.rendered_ne_empty {v : Value} (h : v.truthy = true) : v.rendered ≠ "" := by
  cases v with
  | list items =>
    intro hnil
    simp [rendered, quoted] at hnil
  | map entries =>
    intro hnil
    simp [rendered, quoted] at hnil
  | scalar s =>
    cases s with
    | null => cases h
    | str s =>
      rintro rfl
      cases h
    | bool b => cases b <;> decide
    | int n => exact (startsNumber_int n).ne_empty
    | float x =>
      change Number.floatText x ≠ ""
      unfold Number.floatText
      split
      · decide
      · split <;> decide
      · exact (startsNumber_write _ _).ne_empty
    | time t =>
      apply StartsNumber.ne_empty
      simp only [Value.rendered, String.toList_ofList, Timestamp.formatWith, List.append_assoc]
      exact (startsNumber_formatDate t.date).append _
    | date d =>
      apply StartsNumber.ne_empty
      simp only [Value.rendered, Date.format, String.toList_ofList]
      exact startsNumber_formatDate d

/-- There is no CVE number to fall back to where the id is empty, and texts that say nothing are empty. -/
structure Vulnerability.Documented (v : Vulnerability) : Prop where
  named : v.id = "" → v.cve.truthy = false
  description : v.description.orElse "" = v.description
  title : v.title.orElse "" = v.title
  dataSource : v.dataSource.orElse "" = v.dataSource

theorem Value.orElse_orElse (v w : Value) : (v.orElse w).orElse w = v.orElse w := by
  unfold orElse
  split
  · rfl
  · split <;> rfl

namespace Vulnerability

/-- A vulnerability is known by what its id or its CVE number says. -/
theorem id_ofDoc {doc : Value} {v : Vulnerability} (h : ofDoc doc = .ok v) :
    ∃ named : Value, v.id = (named.orElse "").rendered ∧ (named.truthy = true ∨ named = v.cve) := by
  simp only [ofDoc, Reading.bind_eq_ok] at h
  obtain ⟨cvss, -, ident, -, h⟩ := h
  split at h
  · next hident =>
    simp only [Reading.bind_eq_ok, Reading.pure_eq_ok] at h
    obtain ⟨_, rfl, id, hid, _, -, _, -, cve, -, h⟩ := h
    refine ⟨ident, (?_ : v.id = id).trans (Value.text_eq_ok.mp hid).2, .inl hident⟩
    split at h <;> simp only [Reading.bind_eq_ok, Reading.pure_eq_ok] at h <;> repeat obtain ⟨_, _, h⟩ := h
    all_goals rfl
  · simp only [Reading.bind_eq_ok] at h
    obtain ⟨named, hnamed, id, hid, _, -, _, -, cve, hcve, h⟩ := h
    obtain rfl : named = cve := Except.ok.inj (hnamed.symm.trans hcve)
    refine ⟨named, (?_ : v.id = id).trans (Value.text_eq_ok.mp hid).2, .inr ?_⟩
    all_goals
      split at h <;> simp only [Reading.bind_eq_ok, Reading.pure_eq_ok] at h <;> repeat obtain ⟨_, _, h⟩ := h
      all_goals rfl

theorem documented_ofDoc {doc : Value} {v : Vulnerability} (h : ofDoc doc = .ok v) : v.Documented := by
  obtain ⟨named, hid, hnamed⟩ := id_ofDoc h
  have hempty : v.id = "" → v.cve.truthy = false := fun hempty => by
    by_contra htruthy
    have hne : named.truthy = true := by
      rcases hnamed with hnamed | rfl
      · exact hnamed
      · simpa using htruthy
    rw [hid, Value.orElse, if_pos hne] at hempty
    exact Value.rendered_ne_empty hne hempty
  simp only [ofDoc, Reading.bind_eq_ok] at h
  obtain ⟨cvss, -, ident, -, h⟩ := h
  -- the id and the score are each read in two ways
  split at h <;> simp only [Reading.bind_eq_ok] at h <;> obtain ⟨_, -, _, -, _, -, _, -, cve, -, h⟩ := h
  all_goals split at h <;> simp only [Reading.bind_eq_ok, Reading.pure_eq_ok] at h <;> repeat obtain ⟨_, _, h⟩ := h
  all_goals exact ⟨hempty, Value.orElse_orElse _ _, Value.orElse_orElse _ _, Value.orElse_orElse _ _⟩

theorem ofDoc_toDoc {v : Vulnerability} (h : v.Documented) : ofDoc v.toDoc = .ok v := by
  have hid : (Value.str v.id).truthy = true → ((Value.str v.id).orElse "").text = .ok v.id := fun hid => by
    rw [Value.orElse, if_pos hid, Value.text_str]
  have hcve : (Value.str v.id).truthy ≠ true → (v.cve.orElse "").text = .ok v.id := fun hid => by
    have hempty : v.id = "" := by simpa [Value.truthy, Scalar.truthy] using hid
    rw [Value.orElse, if_neg (by simp [h.named hempty]), hempty]
    rfl
  obtain ⟨id, severity, cve, cvssScore, exploitability, fixAvailable, description, title, cwe, dataSource, fixedVersions⟩ := v
  cases cvssScore
  all_goals
    simp [ofDoc, toDoc, List.lookup_cons, Reading.ok_bind, h.description, h.title, h.dataSource]
    split
    · next hheld =>
      rw [hid hheld]
      rfl
    · next hempty =>
      rw [hcve hempty]
      rfl

end Vulnerability

end SupplyGate
