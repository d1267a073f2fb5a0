import SupplyGate.Inventory.Basic
import SupplyGate.Policy.Basic
import SupplyGate.Proofs.Value.Documents
import SupplyGate.Proofs.Value.Faults
import SupplyGate.Proofs.Value.Overlay
import SupplyGate.Risk.BusinessContext

/-!
# What documents of records can fail with

However wrong a document is, reading the record that it describes fails with a fault of its content in most cases. A
policy can also fail for a part that a value lacks or a date that the calendar lacks (`Policy.blames_ofDoc`). The fault of
an entry of an inventory is told together with the entry if it is one of its content; any other fault is not: a
vulnerability that is no map, a score beyond every float, and a last update that the calendar lacks
(`Inventory.tells_entryOf`). A business context only fails in another way for operating hours in a list of one item or a
text of one character, which have an opening and no closing (`BusinessContext.tells_ofDoc`).
-/

namespace SupplyGate

open Reading

/-! ## Policies -/

theorem Fault.OfContent.ofDocument (f : Fault) (h : f.OfContent) : f.OfDocument := .inl h

theorem Condition.blames_ofDoc (doc : Value) : Blames Fault.OfDocument (ofDoc doc) := by
  simp [ofDoc]

theorem IssueTracker.blames_ofDoc (doc : Value) : Blames Fault.OfDocument (ofDoc doc) := by
  simp [ofDoc]

theorem ActionConfig.blames_ofDoc (doc : Value) : Blames Fault.OfDocument (ofDoc doc) := by
  unfold ofDoc
  simp only [blames_bind, Value.blames_field, Value.blames_asListOrEmpty, true_and]
  intros
  split <;> simp [IssueTracker.blames_ofDoc]

theorem RuleAction.blames_ofDoc (doc : Value) : Blames Fault.OfDocument (ofDoc doc) := by
  simp [ofDoc, ActionConfig.blames_ofDoc]

theorem RuleMetadata.blames_ofDoc (doc : Value) : Blames Fault.OfDocument (ofDoc doc) := by
  simp [ofDoc]

theorem Rule.blames_ofDoc (doc : Value) : Blames Fault.OfDocument (ofDoc doc) := by
  have hconditions := Value.blames_asRecordsOrEmpty Condition.blames_ofDoc Fault.OfContent.ofDocument
  have hactions := Value.blames_asRecordsOrEmpty RuleAction.blames_ofDoc Fault.OfContent.ofDocument
  simp [ofDoc, hconditions, hactions, RuleMetadata.blames_ofDoc]

theorem PolicyScope.blames_ofDoc (doc : Value) : Blames Fault.OfDocument (ofDoc doc) := by
  simp [ofDoc]

theorem Enforcement.blames_ofDoc (doc : Value) : Blames Fault.OfDocument (ofDoc doc) := by
  simp [ofDoc]

theorem ReviewSchedule.blames_ofDoc (doc : Value) : Blames Fault.OfDocument (ofDoc doc) := by
  simp [ofDoc]

theorem PolicyException.blames_ofDoc (now : Timestamp) (doc : Value) : Blames Fault.OfDocument (ofDoc now doc) := by
  unfold ofDoc
  simp only [blames_bind, Value.blames_field, Value.blames_item, Value.blames_asListOrEmpty,
    Value.blames_asTimestamp, true_and]
  intros
  split <;> simp [ReviewSchedule.blames_ofDoc]

theorem PolicyChange.blames_ofDoc (doc : Value) : Blames Fault.OfDocument (ofDoc doc) := by
  simp [ofDoc]

theorem PolicyMetadata.blames_ofDoc (doc : Value) : Blames Fault.OfDocument (ofDoc doc) := by
  have hchanges := Value.blames_asRecordsOrEmpty PolicyChange.blames_ofDoc Fault.OfContent.ofDocument
  simp [ofDoc, hchanges]

/-- Whatever the document of a policy says, reading it fails with a fault of a document. -/
theorem Policy.blames_ofDoc (now : Timestamp) (doc : Value) : Blames Fault.OfDocument (ofDoc now doc) := by
  have hrules := Value.blames_asRecordsOrEmpty Rule.blames_ofDoc Fault.OfContent.ofDocument
  have hexceptions := Value.blames_asRecordsOrEmpty (PolicyException.blames_ofDoc now) Fault.OfContent.ofDocument
  simp [ofDoc, PolicyScope.blames_ofDoc, Enforcement.blames_ofDoc, PolicyMetadata.blames_ofDoc, hrules, hexceptions]

/-! ## Dependencies -/

/-- A dependency can be read up to its last update, which is a date that the calendar lacks. -/
structure Dependency.OffCalendar (entries : List (Scalar × Value)) : Prop where
  version : ∃ text, ((Value.find? "version" entries).getD "*").text = .ok text
  type : ∃ t : DependencyType, Scale.readLower ((Value.find? "type" entries).getD "direct") = .ok t
  scope : ∃ s : DependencyScope, Scale.readLower ((Value.find? "scope" entries).getD "production") = .ok s
  licenses : ∃ ls, ((Value.find? "licenses" entries).getD .null).asListOrEmpty = .ok ls
  lastUpdate : ((Value.find? "last_update" entries).getD .null).asTimestamp = .error .calendarRange

theorem Dependency.tells_ofDoc {entries : List (Scalar × Value)} {name : Value}
    (hname : Value.find? "name" entries = some name) :
    Tells Fault.Stray (ofDoc (.map entries)) ↔ OffCalendar entries := by
  unfold ofDoc Value.item
  simp only [hname, Value.field_map, Reading.ok_bind, tells_bind, Value.not_stray_text, Scale.not_stray_readLower,
    Value.not_stray_asListOrEmpty, Value.not_stray_asEntriesOrEmpty, Value.stray_asTimestamp, tells_pure, false_or,
    or_false, and_false, exists_false]
  constructor
  · rintro ⟨v, hv, t, ht, s, hs, ls, hls, h⟩
    exact ⟨⟨v, hv⟩, ⟨t, ht⟩, ⟨s, hs⟩, ⟨ls, hls⟩, h⟩
  · rintro ⟨⟨v, hv⟩, ⟨t, ht⟩, ⟨s, hs⟩, ⟨ls, hls⟩, h⟩
    exact ⟨v, hv, t, ht, s, hs, ls, hls, h⟩

/-! ## Vulnerabilities -/

/-- What the document of a vulnerability names it by: its id, or else its CVE number. -/
def Vulnerability.nameIn (entries : List (Scalar × Value)) : Value :=
  let ident := (Value.find? "id" entries).getD .null
  (if ident.truthy then ident else (Value.find? "cve" entries).getD .null).orElse ""

/-- A vulnerability is no map, or its score is a whole number beyond every float. -/
inductive Vulnerability.Unfit : Value → Prop where
  | noMap {v : Value} (shape : ∀ entries, v ≠ .map entries) : Unfit v
  | score {entries : List (Scalar × Value)} {id : String} {s : Severity} {n : Int}
      (named : (nameIn entries).text = .ok id)
      (severity : Scale.readUpper ((Value.find? "severity" entries).getD "LOW") = .ok s)
      (score : Value.find? "cvss_score" entries = some (.int n)) (beyond : Number.ofInt? n = none) : Unfit (.map entries)

theorem Vulnerability.unfit_map {entries : List (Scalar × Value)} : Unfit (.map entries) ↔
    ∃ id, (nameIn entries).text = .ok id ∧
      ∃ s : Severity, Scale.readUpper ((Value.find? "severity" entries).getD "LOW") = .ok s ∧
        Tells Fault.Stray ((Value.find? "cvss_score" entries).getD .null).asFloat := by
  simp only [Value.stray_asFloat]
  constructor
  · rintro (h | ⟨hnamed, hs, hscore, hn⟩)
    · exact absurd rfl (h entries)
    · exact ⟨_, hnamed, _, hs, _, by rw [hscore, Option.getD_some], hn⟩
  · rintro ⟨id, hnamed, s, hs, n, hscore, hn⟩
    cases hfind : Value.find? "cvss_score" entries with
    | none => simp [hfind] at hscore
    | some score =>
      rw [hfind, Option.getD_some] at hscore
      exact .score hnamed hs (hscore ▸ hfind) hn

theorem Vulnerability.tells_ofDoc {v : Value} : Tells Fault.Stray (ofDoc v) ↔ Unfit v := by
  unfold ofDoc
  by_cases hmap : ∃ entries, v = .map entries
  · obtain ⟨entries, rfl⟩ := hmap
    rw [unfit_map]
    unfold nameIn
    simp only [Value.field_map, Reading.ok_bind, pure_bind]
    generalize (Value.find? "cvss_score" entries).getD .null = score
    split
    all_goals
      simp only [tells_bind, Value.not_stray_text, Scale.not_stray_readUpper, false_or]
      refine exists_congr fun id => and_congr_right fun _ => exists_congr fun s => and_congr_right fun _ => ?_
      split
      all_goals simp [tells_bind]
  · have hshape : ∀ entries, v ≠ .map entries := fun entries h => hmap ⟨entries, h⟩
    obtain ⟨f, hf, hstray⟩ := Value.stray_field hshape "cvss_score" .null
    exact iff_of_true ⟨f, by rw [hf]; rfl, hstray⟩ (.noMap hshape)

/-- A fault of an entry: one of a document, or a number beyond every float. -/
def Fault.OfEntry (f : Fault) : Prop := f.OfDocument ∨ f = .floatRange

theorem Dependency.blames_ofDoc (doc : Value) : Blames Fault.OfDocument (ofDoc doc) := by
  have hentries : ∀ v : Value, Blames Fault.OfDocument v.asEntriesOrEmpty := fun v =>
    (Value.ofContent_asEntriesOrEmpty v).mono fun _ => .inl
  simp [ofDoc, hentries]

theorem Vulnerability.blames_ofDoc (doc : Value) : Blames Fault.OfEntry (ofDoc doc) := by
  have hfield : ∀ (v : Value) (key : String) (default : Value), Blames Fault.OfEntry (v.field key default) :=
    fun v key default => (Value.blames_field v key default).mono fun _ => .inl
  have hlist : ∀ v : Value, Blames Fault.OfEntry v.asListOrEmpty := fun v =>
    (Value.blames_asListOrEmpty v).mono fun _ => .inl
  have hseverity : ∀ v : Value, Blames Fault.OfEntry (Scale.readUpper v : Reading Severity) := fun v =>
    (Scale.blames_readUpper v).mono fun _ => .inl
  have htext : ∀ v : Value, Blames Fault.OfEntry v.text := fun v => (Value.blames_text v).mono fun _ => .inl
  have hfloat : ∀ v : Value, Blames Fault.OfEntry v.asFloat := by
    intro v
    unfold Value.asFloat
    repeat' split
    all_goals simp [Fault.OfEntry, Fault.OfDocument, Fault.OfContent, Fault.family]
  unfold ofDoc
  simp only [blames_bind, hfield, true_and]
  intro cvss _ ident _
  split
  all_goals
    simp only [blames_bind, blames_pure, hfield, htext, hseverity, true_and]
    intros
    split
    all_goals simp [hfield, hlist, hfloat]

/-! ## Entries -/

namespace Inventory

/-- The vulnerabilities that an entry lists. -/
def listed (entries : List (Scalar × Value)) : Reading (List Value) :=
  ((Value.find? "vulnerabilities" entries).getD .null).asListOrEmpty

/-- The entries of a map with the name of the dependency in its place. -/
def named (name : String) (entries : List (Scalar × Value)) : List (Scalar × Value) :=
  Value.insert (.str "name") (.str name) entries

theorem tells_entryOf {name : String} {entries : List (Scalar × Value)} :
    Tells Fault.Stray (entryOf name entries) ↔
      Dependency.OffCalendar (named name entries) ∨
        (∃ d, Dependency.ofDoc (.map (named name entries)) = .ok d) ∧
          ∃ items, listed entries = .ok items ∧
            ComesTo (fun v => ∃ w, Vulnerability.ofDoc v = .ok w) Vulnerability.Unfit items := by
  have hname : Value.find? "name" (named name entries) = some (.str name) := Value.find?_insert_self ..
  have hrecords : (Value.map entries).field "vulnerabilities" >>= (Value.asRecordsOrEmpty Vulnerability.ofDoc) =
      listed entries >>= fun items => items.mapM Vulnerability.ofDoc := rfl
  have hlisted : ¬ Tells Fault.Stray (listed entries) := Value.not_stray_asListOrEmpty _
  have hread : Tells Fault.Stray (listed entries >>= fun items => items.mapM Vulnerability.ofDoc) ↔
      ∃ items, listed entries = .ok items ∧
        ComesTo (fun v => ∃ w, Vulnerability.ofDoc v = .ok w) Vulnerability.Unfit items := by
    rw [tells_bind, or_iff_right hlisted]
    exact exists_congr fun items => and_congr_right fun _ =>
      tells_mapM (fun _ => Iff.rfl) fun _ => Vulnerability.tells_ofDoc
  unfold entryOf
  rw [tells_bind]
  change Tells _ (Dependency.ofDoc (.map (named name entries))) ∨ _ ↔ _
  rw [Dependency.tells_ofDoc hname, ← hread, ← hrecords]
  simp only [tells_bind, tells_pure, and_false, exists_false, or_false, exists_and_right]
  rfl

theorem blames_entryOf (name : String) (entries : List (Scalar × Value)) :
    Blames Fault.OfEntry (entryOf name entries) := by
  unfold entryOf
  refine blames_bind.mpr ⟨(Dependency.blames_ofDoc _).mono fun _ => .inl, fun d _ => blames_bind.mpr ⟨?_, ?_⟩⟩
  · exact (Value.blames_field _ _ _).mono fun _ => .inl
  · intro v _
    refine blames_bind.mpr ⟨Value.blames_asRecordsOrEmpty Vulnerability.blames_ofDoc (fun _ h => .inl (.inl h)) v, ?_⟩
    exact fun _ _ => blames_pure

end Inventory

/-! ## Records with fixed fields -/

theorem FieldList.ofContent_fill (spec : FieldList) (v : Value) : Blames Fault.OfContent (spec.fill v) := by
  cases v with
  | map entries =>
    unfold fill
    dsimp only
    split
    · simp [Fault.OfContent, Fault.family]
    · simp [Fault.OfContent, Fault.family]
    · split
      · exact blames_ok
      · simp [Fault.OfContent, Fault.family]
  | _ => simp [fill, Fault.OfContent, Fault.family]

theorem FieldList.ofContent_fills (spec : FieldList) (v : Value) : Blames Fault.OfContent (v.asRecordsOrEmpty spec.fill) :=
  Value.blames_asRecordsOrEmpty spec.ofContent_fill (fun _ h => h) v

@[simp] theorem FieldList.not_stray_fills (spec : FieldList) (v : Value) :
    ¬ Tells Fault.Stray (v.asRecordsOrEmpty spec.fill) :=
  (spec.ofContent_fills v).not_tells fun _ h hstray => hstray h

theorem Value.ofContent_asList (v : Value) : Blames Fault.OfContent v.asList := by
  unfold asList
  split <;> simp [Fault.OfContent, Fault.family]

@[simp] theorem Value.not_stray_asList (v : Value) : ¬ Tells Fault.Stray v.asList :=
  (ofContent_asList v).not_tells fun _ h hstray => hstray h

/-! ## Hours -/

/-- A list of one item, or a text of one character. -/
inductive Value.Single : Value → Prop where
  | list (v : Value) : Single (.list [v])
  | text (c : Char) : Single (.str (String.singleton c))

theorem Value.Single.truthy {v : Value} (h : v.Single) : v.truthy = true := by
  cases h with
  | list v => rfl
  | text c => simp [Value.truthy, Scalar.truthy]

/-- What holds something, and in the first place alone, is single. -/
theorem Value.single_iff {v : Value} (h : v.truthy = true) : v.Single ↔
    (∃ items, v = .list items ∧ items.length ≤ 1) ∨ ∃ s, v = .str s ∧ s.toList.length ≤ 1 := by
  constructor
  · rintro (w | c)
    · exact .inl ⟨_, rfl, by simp⟩
    · exact .inr ⟨_, rfl, by simp⟩
  · rintro (⟨items, rfl, hlength⟩ | ⟨s, rfl, hlength⟩)
    · match items, h, hlength with
      | [w], _, _ => exact .list w
    · have hne : s.toList ≠ [] := fun hnil => by
        obtain rfl : s = "" := String.toList_injective hnil
        cases h
      obtain ⟨c, hc⟩ := List.length_eq_one_iff.mp (Nat.le_antisymm hlength (List.length_pos_iff.mpr hne))
      obtain rfl : s = String.singleton c := String.toList_injective (by simpa using hc)
      exact .text c

/-- There is an item at each position of a text or a list up to its length; of what is neither, asking for one fails with
its kind or its keys. -/
theorem Value.stray_itemAt (v : Value) (n : Nat) : Tells Fault.Stray (v.itemAt n) ↔
    (∃ items, v = .list items ∧ items.length ≤ n) ∨ ∃ s, v = .str s ∧ s.toList.length ≤ n := by
  have hindex (collection : String) : (Fault.index collection).Stray := by simp [Fault.Stray, Fault.OfContent, Fault.family]
  have hkey (k : Scalar) : ¬ (Fault.missingKey k).Stray := by simp [Fault.Stray, Fault.OfContent, Fault.family]
  have hkind (k : KindFault) : ¬ (Fault.kind k).Stray := by simp [Fault.Stray, Fault.OfContent, Fault.family]
  cases v with
  | list items =>
    cases h : items[n]? with
    | none => simp [itemAt, hindex, List.getElem?_eq_none_iff.mp h]
    | some w => simp [itemAt, (List.getElem?_eq_some_iff.mp h).1]
  | map entries => cases h : findEntry (.int n) entries <;> simp [itemAt, h, hkey]
  | scalar x =>
    cases x with
    | str s =>
      cases h : s.toList[n]? with
      | none => simp [itemAt, hindex, List.getElem?_eq_none_iff.mp h]
      | some c => simp [itemAt, (List.getElem?_eq_some_iff.mp h).1]
    | _ => simp [itemAt, hkind]

/-- The first two items of a value, or of a pair in its place if it is empty, cannot be had for another reason than its
kind or its keys just where it has one item. -/
theorem Value.stray_pair (v opening closing : Value) :
    Tells Fault.Stray ((v.orElse (.list [opening, closing])).itemAt 0) ∨
      (∃ w, (v.orElse (.list [opening, closing])).itemAt 0 = .ok w ∧
        Tells Fault.Stray ((v.orElse (.list [opening, closing])).itemAt 1)) ↔ v.Single := by
  by_cases htruthy : v.truthy = true
  · rw [orElse, if_pos htruthy]
    have hfirst : ¬ Tells Fault.Stray (v.itemAt 0) := by
      rw [stray_itemAt]
      rintro (⟨items, rfl, hlength⟩ | ⟨s, rfl, hlength⟩)
      · obtain rfl := List.length_eq_zero_iff.mp (Nat.le_zero.mp hlength)
        cases htruthy
      · obtain rfl : s = "" := String.toList_injective (List.length_eq_zero_iff.mp (Nat.le_zero.mp hlength))
        cases htruthy
    rw [or_iff_right hfirst, stray_itemAt, ← single_iff htruthy, exists_and_right, and_iff_right_iff_imp]
    rintro (w | c)
    · exact ⟨w, rfl⟩
    · exact ⟨.str (String.singleton c), by simp [itemAt]⟩
  · rw [orElse, if_neg htruthy]
    exact iff_of_false (by simp [stray_itemAt]) fun h => htruthy h.truthy

namespace BusinessContext

/-- A document could be read but for its operating hours, which are a single item. -/
structure ShortHours (entries : List (Scalar × Value)) : Prop where
  rest : ∃ c, ofDoc (.map (Value.insert (.str "operating_hours") .null entries)) = .ok c
  hours : ((Value.find? "operating_hours" entries).getD .null).Single

/-- Without its hours a document is read where each of its other fields is. -/
theorem tells_ofDoc {entries : List (Scalar × Value)} : Tells Fault.Stray (ofDoc (.map entries)) ↔ ShortHours entries := by
  have hdefault (v w : Value) : (Value.null.orElse (.list [v, w])).itemAt 0 = .ok v ∧
      (Value.null.orElse (.list [v, w])).itemAt 1 = .ok w := ⟨rfl, rfl⟩
  have hshort : ShortHours entries ↔
      (∃ c, ofDoc (.map (Value.insert (.str "operating_hours") .null entries)) = .ok c) ∧
        ((Value.find? "operating_hours" entries).getD .null).Single :=
    ⟨fun h => ⟨h.rest, h.hours⟩, fun h => ⟨h.1, h.2⟩⟩
  rw [hshort]
  unfold ofDoc
  simp only [Value.field_map, Reading.ok_bind, tells_bind, Scale.not_stray_readUpper, Value.not_stray_asListOrEmpty,
    FieldList.not_stray_fills, Value.not_stray_asList, tells_pure, false_or, or_false, and_false, exists_false,
    Value.find?_insert_self, ne_eq, String.reduceEq, not_false_eq_true, Value.find?_insert_ne, bind_eq_ok, pure_eq_ok,
    Option.getD_some, hdefault, Value.stray_pair]
  constructor
  · rintro ⟨a, ha, b, hb, c, hc, d, hd, e, he, f, hf, g, hg, i, hi, hsingle⟩
    exact ⟨⟨_, a, ha, b, hb, c, hc, d, hd, e, he, f, hf, g, hg, i, hi, rfl⟩, hsingle⟩
  · rintro ⟨⟨_, a, ha, b, hb, c, hc, d, hd, e, he, f, hf, g, hg, i, hi, -⟩, hsingle⟩
    exact ⟨a, ha, b, hb, c, hc, d, hd, e, he, f, hf, g, hg, i, hi, hsingle⟩

/-- Reading a business context fails with a fault of its content, or for the lack of an item. -/
theorem blames_ofDoc (entries : List (Scalar × Value)) :
    Blames (fun f => f.OfContent ∨ f.family = .index) (ofDoc (.map entries)) := by
  have hitem (v : Value) (n : Nat) : Blames (fun f => f.OfContent ∨ f.family = .index) (v.itemAt n) := by
    unfold Value.itemAt
    repeat' split
    all_goals simp [Fault.OfContent, Fault.family]
  unfold ofDoc
  simp only [Value.field_map, Reading.ok_bind, blames_bind]
  -- the scales, the four lists and the two lists of records, the days, then the two hours
  refine ⟨(Scale.ofContent_readUpper _).mono fun _ => .inl, fun _ _ => ?_⟩
  refine ⟨(Scale.ofContent_readUpper _).mono fun _ => .inl, fun _ _ => ?_⟩
  refine ⟨(Scale.ofContent_readUpper _).mono fun _ => .inl, fun _ _ => ?_⟩
  refine ⟨(Value.ofContent_asListOrEmpty _).mono fun _ => .inl, fun _ _ => ?_⟩
  refine ⟨(FieldList.ofContent_fills _ _).mono fun _ => .inl, fun _ _ => ?_⟩
  refine ⟨(FieldList.ofContent_fills _ _).mono fun _ => .inl, fun _ _ => ?_⟩
  refine ⟨(Value.ofContent_asListOrEmpty _).mono fun _ => .inl, fun _ _ => ?_⟩
  refine ⟨(Value.ofContent_asList _).mono fun _ => .inl, fun _ _ => ?_⟩
  exact ⟨hitem _ 0, fun _ _ => ⟨hitem _ 1, fun _ _ => blames_pure⟩⟩

end BusinessContext

end SupplyGate
