import SupplyGate.Proofs.CommandLine.Loading
import SupplyGate.Proofs.Sample

/-!
# What a loaded inventory keeps of its file

Entries are told apart by their identity, name and version in one text, and of the entries with one identity the first is
loaded (`LoadedFrom`). What is loaded is in the order of the file and has the vulnerabilities of its own entry. An entry
loses its name, its version or its ecosystem just where an earlier one with the same identity has another
(`LoadedFrom.keeps_iff`), as where a package of one name and version is listed for two ecosystems.
-/

namespace SupplyGate

open Reading

/-! ## Entries -/

/-- The name, the version and the ecosystem of a dependency are in its document. -/
theorem Dependency.fields_of_ofDoc {entries : List (Scalar × Value)} {d : Dependency} (h : ofDoc (.map entries) = .ok d) :
    Value.find? "name" entries = some d.name ∧ ((Value.find? "version" entries).getD "*").text = .ok d.version ∧
      d.ecosystem = (Value.find? "ecosystem" entries).getD "" := by
  simp only [ofDoc, Value.field_map, Reading.ok_bind, Reading.bind_eq_ok, Reading.pure_eq_ok] at h
  obtain ⟨name, hname, version, hversion, _, _, _, _, _, _, _, _, _, _, _, _, rfl⟩ := h
  refine ⟨?_, hversion, rfl⟩
  unfold Value.item at hname
  cases hfind : Value.find? "name" entries with
  | none => simp [hfind] at hname
  | some w => simpa [hfind] using hname

namespace Inventory

/-- What an entry says of the dependency that it describes: the name without blanks around it, the version, the ecosystem,
and the vulnerabilities, each read from one that the entry lists. -/
structure Describes (entries : List (Scalar × Value)) (d : Dependency) (known : List Vulnerability) : Prop where
  dependency : Dependency.ofDoc (.map (named (entryName entries) entries)) = .ok d
  name : d.name = .str (entryName entries)
  version : ((Value.find? "version" entries).getD "*").text = .ok d.version
  ecosystem : Value.find? "ecosystem" entries = some d.ecosystem
  known : ∃ docs, listed entries = .ok docs ∧ List.Forall₂ (fun doc w => Vulnerability.ofDoc doc = .ok w) docs known

/-- An entry describes a dependency and its known vulnerabilities. -/
def ReadAs (entry : Value) (found : Dependency × List Vulnerability) : Prop :=
  ∃ entries, entry = .map entries ∧ Describes entries found.1 found.2

section Entries

variable {entries : List (Scalar × Value)} {d : Dependency} {known : List Vulnerability}

theorem describes_of_entryOf (hheaded : Headed entries) (h : entryOf (entryName entries) entries = .ok (d, known)) :
    Describes entries d known := by
  simp only [entryOf, Value.field_map, ok_bind, bind_eq_ok, pure_eq_ok, Prod.mk.injEq] at h
  obtain ⟨d', hd, known', hknown, rfl, rfl⟩ := h
  obtain ⟨docs, hdocs, hmap⟩ := bind_eq_ok.mp hknown
  obtain ⟨hname, hversion, hecosystem⟩ := Dependency.fields_of_ofDoc hd
  rw [Value.find?_insert_self] at hname
  rw [Value.find?_insert_ne (by decide)] at hversion hecosystem
  refine ⟨hd, (Option.some.inj hname).symm, hversion, ?_, docs, hdocs, mapM_ok hmap⟩
  have htruthy := hheaded.ecosystem
  cases hfind : Value.find? "ecosystem" entries with
  | none =>
    rw [hfind] at htruthy
    cases htruthy
  | some e => rw [hecosystem, hfind, Option.getD_some]

/-- What an entry that can be read adds is what it describes. -/
theorem readAs_of_addEntry {v w : Inventory} {number : Nat} {entry : Value} (h : addEntry v number entry = .ok w) :
    ∃ d known, ReadAs entry (d, known) ∧ w = v.add d known := by
  obtain ⟨entries, rfl, hheaded, -⟩ := addEntry_ok_iff.mp ⟨w, h⟩
  obtain ⟨label, hentry⟩ := @addEntry_map v number entries hheaded
  rw [hentry] at h
  cases hof : entryOf (entryName entries) entries with
  | error f => simp [hof] at h
  | ok found =>
    obtain ⟨d, known⟩ := found
    rw [hof] at h
    exact ⟨d, known, ⟨entries, rfl, describes_of_entryOf hheaded hof⟩, (Except.ok.inj h).symm⟩

end Entries

/-! ## Loading one after another -/

/-- What was loaded of the dependencies that were read, each with its vulnerabilities: of those with one identity the
first, in the order in which they were read. -/
structure LoadedFrom (read : List (Dependency × List Vulnerability)) (v : Inventory) : Prop where
  ordered : v.dependencies.Sublist (read.map (·.1))
  distinct : (v.dependencies.map (·.ident)).Nodup
  complete : ∀ found ∈ read, v.lists found.1.ident = true
  first : ∀ d ∈ v.dependencies, read.find? (·.1.ident == d.ident) = some (d, v.vulnerabilitiesOf d)
  keyed : ∀ e ∈ v.vulnerabilities, v.lists e.1 = true

section Loading

variable {read : List (Dependency × List Vulnerability)} {v w : Inventory} {d : Dependency} {known : List Vulnerability}

theorem loadedFrom_empty : LoadedFrom [] empty where
  ordered := .slnil
  distinct := .nil
  complete _ h := nomatch h
  first _ h := nomatch h
  keyed _ h := nomatch h

theorem lists_iff {ident : String} : v.lists ident = true ↔ ∃ d ∈ v.dependencies, d.ident = ident := by
  simp [lists]

theorem dependencies_add_of_new (hnew : v.lists d.ident = false) :
    (v.add d known).dependencies = v.dependencies ++ [d] := by
  rw [add, if_neg (by simp [hnew])]

theorem lists_add_of_new {ident : String} (hnew : v.lists d.ident = false) :
    (v.add d known).lists ident = (v.lists ident || d.ident == ident) := by
  rw [lists, dependencies_add_of_new hnew, List.any_append, lists, List.any_cons, List.any_nil, Bool.or_false]

/-- What is known of a dependency that is new is what was added with it. -/
theorem LoadedFrom.vulnerabilitiesOf_add_self (h : LoadedFrom read v) (hnew : v.lists d.ident = false) :
    (v.add d known).vulnerabilitiesOf d = known := by
  have hnone : v.vulnerabilities.lookup d.ident = none := by
    refine List.lookup_eq_none_iff.mpr fun e he => bne_iff_ne.mpr fun heq => ?_
    rw [heq, h.keyed e he] at hnew
    cases hnew
  rw [vulnerabilitiesOf, add, if_neg (by simp [hnew])]
  cases known with
  | nil => simp [hnone]
  | cons k known => simp [List.lookup_append, hnone]

/-- What is known of the others stays. -/
theorem vulnerabilitiesOf_add_of_ne {e : Dependency} (hne : e.ident ≠ d.ident) :
    (v.add d known).vulnerabilitiesOf e = v.vulnerabilitiesOf e := by
  unfold vulnerabilitiesOf add
  split
  · rfl
  · cases known with
    | nil => rfl
    | cons k known =>
      have hlookup : List.lookup e.ident [(d.ident, k :: known)] = none := by
        rw [List.lookup_cons, beq_false_of_ne hne]
        rfl
      simp [List.lookup_append, hlookup]

/-- A dependency with an identity that is listed adds nothing, and is told by the first one with it. -/
theorem LoadedFrom.skip (h : LoadedFrom read v) (hlisted : v.lists d.ident = true) : LoadedFrom (read ++ [(d, known)]) v where
  ordered := by
    rw [List.map_append]
    exact h.ordered.trans (List.sublist_append_left _ _)
  distinct := h.distinct
  complete := by
    intro found hfound
    rcases List.mem_append.mp hfound with hfound | hfound
    · exact h.complete found hfound
    · rw [List.mem_singleton.mp hfound]
      exact hlisted
  first := by
    intro e he
    rw [List.find?_append, h.first e he, Option.some_or]
  keyed := h.keyed

/-- A dependency with an identity that is not listed is added at the end, with what is known of it. -/
theorem LoadedFrom.append (h : LoadedFrom read v) (hnew : v.lists d.ident = false) :
    LoadedFrom (read ++ [(d, known)]) (v.add d known) := by
  have hunlisted : ∀ e ∈ v.dependencies, e.ident ≠ d.ident := by
    intro e he heq
    rw [lists_iff.mpr ⟨e, he, heq⟩] at hnew
    cases hnew
  constructor
  case ordered =>
    rw [dependencies_add_of_new hnew, List.map_append]
    exact h.ordered.append (.refl [d])
  case distinct =>
    rw [dependencies_add_of_new hnew, List.map_append]
    refine List.nodup_append.mpr ⟨h.distinct, List.pairwise_singleton _ _, ?_⟩
    rintro _ hident _ hd
    obtain ⟨e, he, rfl⟩ := List.mem_map.mp hident
    rw [List.mem_singleton.mp hd]
    exact hunlisted e he
  case complete =>
    intro found hfound
    rw [lists_add_of_new hnew]
    rcases List.mem_append.mp hfound with hfound | hfound
    · rw [h.complete found hfound, Bool.true_or]
    · rw [List.mem_singleton.mp hfound, beq_self_eq_true, Bool.or_true]
  case first =>
    intro e he
    rw [dependencies_add_of_new hnew] at he
    rw [List.find?_append]
    rcases List.mem_append.mp he with he | he
    · rw [h.first e he, Option.some_or, vulnerabilitiesOf_add_of_ne (hunlisted e he)]
    · obtain rfl := List.mem_singleton.mp he
      -- none of those that were read before has its identity, for that would be listed
      have hnone : read.find? (·.1.ident == e.ident) = none := by
        refine List.find?_eq_none.mpr fun found hfound heq => ?_
        rw [← beq_iff_eq.mp heq, h.complete found hfound] at hnew
        cases hnew
      rw [hnone, Option.none_or, List.find?_cons_of_pos (by exact beq_self_eq_true _), h.vulnerabilitiesOf_add_self hnew]
  case keyed =>
    intro e he
    rw [lists_add_of_new hnew]
    rw [add, if_neg (by simp [hnew])] at he
    cases known with
    | nil => rw [h.keyed e he, Bool.true_or]
    | cons k known =>
      rcases List.mem_append.mp he with he | he
      · rw [h.keyed e he, Bool.true_or]
      · rw [List.mem_singleton.mp he, beq_self_eq_true, Bool.or_true]

/-- One more dependency is added where its identity is new, and passed over else. -/
theorem LoadedFrom.step (h : LoadedFrom read v) (d : Dependency) (known : List Vulnerability) :
    LoadedFrom (read ++ [(d, known)]) (v.add d known) := by
  cases hlisted : v.lists d.ident with
  | true =>
    rw [add, if_pos hlisted]
    exact h.skip hlisted
  | false => exact h.append hlisted

/-- The entries of a list are loaded one after another. -/
theorem LoadedFrom.run : ∀ {items : List Value} {i : Nat} {read : List (Dependency × List Vulnerability)} {v w : Inventory},
    LoadedFrom read v → (items.zipIdx i).foldlM (fun v (entry, i) => v.addEntry (i + 1) entry) v = .ok w →
      ∃ more, List.Forall₂ ReadAs items more ∧ LoadedFrom (read ++ more) w
  | [], i, read, v, w, h, hfold => by
    obtain rfl := pure_eq_ok.mp hfold
    exact ⟨[], .nil, by rwa [List.append_nil]⟩
  | entry :: items, i, read, v, w, h, hfold => by
    rw [List.zipIdx_cons, List.foldlM_cons] at hfold
    obtain ⟨u, hentry, hrest⟩ := bind_eq_ok.mp hfold
    obtain ⟨d, known, hread, rfl⟩ := readAs_of_addEntry hentry
    obtain ⟨more, hmore, hw⟩ := (h.step d known).run hrest
    rw [List.append_assoc] at hw
    exact ⟨(d, known) :: more, .cons hread hmore, hw⟩

/-- Two dependencies have the same name, version and ecosystem. -/
def SamePackage (d e : Dependency) : Prop := d.name = e.name ∧ d.version = e.version ∧ d.ecosystem = e.ecosystem

/-- What an entry says is kept just where the first entry with its identity says the same. -/
theorem LoadedFrom.keeps_iff (h : LoadedFrom read v) {found : Dependency × List Vulnerability} (hfound : found ∈ read) :
    (∃ d ∈ v.dependencies, SamePackage d found.1) ↔
      ∃ d known, read.find? (·.1.ident == found.1.ident) = some (d, known) ∧ SamePackage d found.1 := by
  constructor
  · rintro ⟨d, hd, hsame⟩
    have hident : d.ident = found.1.ident := by rw [Dependency.ident, hsame.1, hsame.2.1]; rfl
    exact ⟨d, v.vulnerabilitiesOf d, hident ▸ h.first d hd, hsame⟩
  · rintro ⟨d, known, hfirst, hsame⟩
    obtain ⟨e, he, hident⟩ := lists_iff.mp (h.complete found hfound)
    have hfirst' := h.first e he
    rw [hident, hfirst] at hfirst'
    obtain ⟨rfl, -⟩ := Prod.mk.inj (Option.some.inj hfirst')
    exact ⟨d, he, hsame⟩

end Loading

theorem loadedFrom_ofDoc {path : String} {doc : Value} {v : Inventory} (h : ofDoc path doc = .ok v) :
    ∃ items read, doc.Lists "dependencies" items ∧ List.Forall₂ ReadAs items read ∧ LoadedFrom read v := by
  unfold ofDoc at h
  split at h
  · next entries =>
    split at h
    · next items hitems =>
      obtain ⟨read, hread, hv⟩ := loadedFrom_empty.run h
      exact ⟨items, read, ⟨entries, rfl, hitems⟩, hread, hv⟩
    · cases h
    · cases h
  · cases h

/-- A package that is listed for two ecosystems in one version is loaded for the first alone: the second entry has the
same identity. -/
theorem loses_second_ecosystem :
    let entry (ecosystem : Value) : Value := .fields [("name", "lib"), ("version", "1"), ("ecosystem", ecosystem)]
    let doc : Value := .fields [("dependencies", .list [entry "npm", entry "pypi"])]
    ∃ v, ofDoc "inventory.yaml" doc = .ok v ∧ v.dependencies.length = 1 ∧ ∀ d ∈ v.dependencies, d.ecosystem ≠ "pypi" := by
  intro entry doc
  have hload : ofDoc "inventory.yaml" doc = .ok ⟨[{ Sample.dependency "lib" with ecosystem := "npm" }], []⟩ := rfl
  refine ⟨_, hload, rfl, ?_⟩
  simp

end Inventory

/-- **What a loaded inventory keeps of its file.** Of an inventory that is accepted, the loaded dependencies have distinct
identities and are in the order of the file, and each is read from the first entry with its identity and has the
vulnerabilities of that entry, in its order. Every entry has an identity that is loaded. Its name, its version and its
ecosystem are those of a loaded dependency just where they are those of the first entry with its identity. -/
theorem Files.inventory_keeps {files : Files} {path : String} {v : Inventory} (h : files.inventory path = .ok v) :
    ∃ doc items read, files.document path = .ok doc ∧ doc.Lists "dependencies" items ∧
      List.Forall₂ Inventory.ReadAs items read ∧
      (v.dependencies.map (·.ident)).Nodup ∧ v.dependencies.Sublist (read.map (·.1)) ∧
      (∀ d ∈ v.dependencies, read.find? (·.1.ident == d.ident) = some (d, v.vulnerabilitiesOf d)) ∧
      ∀ found ∈ read, (∃ d ∈ v.dependencies, d.ident = found.1.ident) ∧
        ((∃ d ∈ v.dependencies, Inventory.SamePackage d found.1) ↔
          ∃ d known, read.find? (·.1.ident == found.1.ident) = some (d, known) ∧ Inventory.SamePackage d found.1) := by
  obtain ⟨doc, hdoc, h⟩ := bind_eq_ok.mp h
  obtain ⟨items, read, hlists, hread, hloaded⟩ := Inventory.loadedFrom_ofDoc h
  refine ⟨doc, items, read, hdoc, hlists, hread, hloaded.distinct, hloaded.ordered, hloaded.first, fun found hfound => ?_⟩
  exact ⟨Inventory.lists_iff.mp (hloaded.complete found hfound), hloaded.keeps_iff hfound⟩

/-- The file of an inventory with one dependency, which has one vulnerability. -/
def Sample.inventoryFile : Files :=
  .yaml [("inventory.yaml", "dependencies:\n- name: a\n  ecosystem: b\n  vulnerabilities:\n  - id: c")]

/-- The dependency is loaded with its vulnerability, which is that of the entry. -/
theorem Files.inventory_keeps_one :
    ∃ v d, Sample.inventoryFile.inventory "inventory.yaml" = .ok v ∧ d ∈ v.dependencies ∧ d.ident = "a@*" ∧
      (v.vulnerabilitiesOf d).map (·.id) = ["c"] ∧
      ∃ doc items read, Sample.inventoryFile.document "inventory.yaml" = .ok doc ∧ doc.Lists "dependencies" items ∧
        List.Forall₂ Inventory.ReadAs items read ∧ (d, v.vulnerabilitiesOf d) ∈ read := by
  have hfound : (Sample.inventoryFile.inventory "inventory.yaml").toOption.map (fun v =>
      v.dependencies.map fun d => (d.ident, (v.vulnerabilitiesOf d).map (·.id))) = some [("a@*", ["c"])] := by
    decide +kernel
  generalize hload : Sample.inventoryFile.inventory "inventory.yaml" = loaded at hfound
  cases loaded with
  | error f => cases hfound
  | ok v =>
    obtain ⟨d, hdependencies, hd⟩ := List.map_eq_singleton_iff.mp (Option.some.inj hfound)
    obtain ⟨hident, hknown⟩ := Prod.mk.inj hd
    have hmem : d ∈ v.dependencies := by rw [hdependencies]; exact List.mem_cons_self
    obtain ⟨doc, items, read, hdoc, hitems, hread, -, -, hfirst, -⟩ := inventory_keeps hload
    exact ⟨v, d, rfl, hmem, hident, hknown, doc, items, read, hdoc, hitems, hread, List.mem_of_find?_eq_some (hfirst d hmem)⟩

end SupplyGate
