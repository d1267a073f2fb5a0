import SupplyGate.Proofs.Text.Case
import SupplyGate.Proofs.Time.Timestamps
import SupplyGate.Proofs.Value.Reading
import SupplyGate.Value.Read

/-!
# Documents that were written

What a document with named fields says under a key, and how the values that records write are read: members of
scales, timestamps, lists of records and maps.
-/

namespace SupplyGate

variable {α β γ : Type}

theorem Reading.ok_bind (a : α) (f : α → Reading β) : ((Except.ok a : Reading α) >>= f) = f a := rfl

theorem Reading.map_ok (f : α → β) (a : α) : (f <$> (Except.ok a : Reading α)) = Except.ok (f a) := rfl

theorem Reading.map_eq_ok {f : α → β} {x : Reading α} {b : β} : f <$> x = .ok b ↔ ∃ a, x = .ok a ∧ f a = b := by
  cases x with
  | ok a => simp
  | error e => simp [Functor.map, Except.map]

/-! ## Fields -/

namespace Value

/-- The keys of a document with named fields are the names. -/
theorem keys_fields (es : List (String × Value)) :
    (es.map fun (k, v) => (Scalar.str k, v)).map (·.1) = (es.map (·.1)).map Scalar.str := by
  rw [List.map_map, List.map_map]
  rfl

theorem find?_fields (es : List (String × Value)) (key : String) :
    find? key (es.map fun (k, v) => (.str k, v)) = es.lookup key := by
  induction es with
  | nil => rfl
  | cons e es ih =>
    obtain ⟨k, v⟩ := e
    change (if (Scalar.str k).same (.str key) then some v else _) = _
    rw [List.lookup_cons, Scalar.same_str, BEq.comm]
    cases key == k with
    | true => rfl
    | false => exact ih

@[simp] theorem field_fields (es : List (String × Value)) (key : String) (default : Value) :
    (fields es).field key default = .ok ((es.lookup key).getD default) := by
  change (pure ((find? key _).getD default) : Reading Value) = _
  rw [find?_fields]
  rfl

@[simp] theorem item_fields (es : List (String × Value)) (key : String) :
    (fields es).item key = match es.lookup key with
      | some w => .ok w
      | none => .error (.missingKey (.str key)) := by
  change (match find? key _ with | some w => _ | none => _) = _
  rw [find?_fields]

@[simp] theorem memberItem_fields (es : List (String × Value)) (key : String) (default : Value) :
    (fields es).memberItem key default = .ok ((es.lookup key).getD default) := by
  change Except.ok ((find? key _).getD default) = _
  rw [find?_fields]

@[simp] theorem truthy_fields_cons (e : String × Value) (es : List (String × Value)) : (fields (e :: es)).truthy = true := rfl

@[simp] theorem orElse_fields_cons (e : String × Value) (es : List (String × Value)) (w : Value) :
    (fields (e :: es)).orElse w = fields (e :: es) := rfl

@[simp] theorem orElse_fields_nil (es : List (String × Value)) : (fields es).orElse (.map []) = fields es := by
  cases es <;> rfl

/-- Of fields of which some are left out, the others say what they said. -/
theorem lookup_filter (keep : Value → Bool) {es : List (String × Value)} (hkeys : (es.map (·.1)).Nodup) (key : String) :
    (es.filter fun e => keep e.2).lookup key = (es.lookup key).filter keep := by
  induction es with
  | nil => rfl
  | cons e es ih =>
    obtain ⟨k, v⟩ := e
    obtain ⟨hnew, hkeys⟩ := List.nodup_cons.mp hkeys
    have hrest := ih hkeys
    cases hkeep : keep v with
    | true =>
      rw [List.filter_cons_of_pos (by exact hkeep), List.lookup_cons, List.lookup_cons]
      cases key == k with
      | true => exact (Option.filter_some_pos hkeep).symm
      | false => exact hrest
    | false =>
      rw [List.filter_cons_of_neg (by simp [hkeep]), List.lookup_cons, hrest]
      cases hkey : key == k with
      | true =>
        obtain rfl := beq_iff_eq.mp hkey
        have hnone : es.lookup key = none := List.lookup_eq_none_iff.mpr fun e he =>
          bne_iff_ne.mpr fun heq => hnew (show key ∈ _ from heq ▸ List.mem_map_of_mem he)
        rw [hnone]
        exact (Option.filter_some_neg (by simp [hkeep])).symm
      | false => rfl

/-! ## Collections -/

@[simp] theorem asList_list (items : List Value) : (list items).asList = .ok items := rfl

@[simp] theorem asListOrEmpty_list (items : List Value) : (list items).asListOrEmpty = .ok items := by
  cases items <;> rfl

@[simp] theorem asEntriesOrEmpty_map (entries : List (Scalar × Value)) : (map entries).asEntriesOrEmpty = .ok entries := by
  cases entries <;> rfl

@[simp] theorem asRecords_list (ofDoc : Value → Reading α) (items : List Value) :
    (list items).asRecords ofDoc = items.mapM ofDoc := rfl

@[simp] theorem asRecordsOrEmpty_list (ofDoc : Value → Reading α) (items : List Value) :
    (list items).asRecordsOrEmpty ofDoc = items.mapM ofDoc := by
  cases items <;> rfl

end Value

/-- What is made one by one is read one by one. -/
theorem mapM_map {make : α → γ} {read : γ → Reading β} {g : α → β} {as : List α}
    (h : ∀ a ∈ as, read (make a) = .ok (g a)) : (as.map make).mapM read = .ok (as.map g) := by
  induction as with
  | nil => rfl
  | cons a as ih =>
    have hrest := ih fun a' ha' => h a' (List.mem_cons_of_mem _ ha')
    exact Reading.mapM_cons_eq_ok.mpr ⟨g a, as.map g, h a List.mem_cons_self, hrest, rfl⟩

theorem mapM_docs {toDoc : α → Value} {ofDoc : Value → Reading α} {as : List α}
    (h : ∀ a ∈ as, ofDoc (toDoc a) = .ok a) : (as.map toDoc).mapM ofDoc = .ok as := by
  rw [mapM_map (g := id) h, List.map_id]

/-- A list is read as it is where each of its items is. -/
theorem mapM_self {f : α → Reading α} {as : List α} (h : ∀ a ∈ as, f a = .ok a) : as.mapM f = .ok as := by
  induction as with
  | nil => rfl
  | cons a as ih =>
    have hrest := ih fun a' ha' => h a' (List.mem_cons_of_mem _ ha')
    exact Reading.mapM_cons_eq_ok.mpr ⟨a, as, h a List.mem_cons_self, hrest, rfl⟩

/-- Records whose documents were made one by one are read one by one. -/
theorem mapM_of_forall₂ {toDoc : α → Reading Value} {ofDoc : Value → Reading β} {g : α → β} {as : List α} {docs : List Value}
    (hdocs : as.mapM toDoc = .ok docs) (h : ∀ a ∈ as, ∀ doc, toDoc a = .ok doc → ofDoc doc = .ok (g a)) :
    docs.mapM ofDoc = .ok (as.map g) := by
  induction as generalizing docs with
  | nil =>
    cases hdocs
    rfl
  | cons a as ih =>
    obtain ⟨doc, rest, hdoc, hrest, rfl⟩ := Reading.mapM_cons_eq_ok.mp hdocs
    have htail := ih hrest fun a' ha' => h a' (List.mem_cons_of_mem _ ha')
    exact Reading.mapM_cons_eq_ok.mpr ⟨g a, as.map g, h a List.mem_cons_self doc hdoc, htail, rfl⟩

/-- What holds of all that a reading gives holds of the records of a collection. -/
theorem forall_asRecords {P : α → Prop} {ofDoc : Value → Reading α} {v : Value} {as : List α}
    (h : ∀ doc a, ofDoc doc = .ok a → P a) (has : v.asRecords ofDoc = .ok as) : ∀ a ∈ as, P a := by
  obtain ⟨docs, -, hmap⟩ := Reading.bind_eq_ok.mp has
  intro a ha
  obtain ⟨doc, -, hdoc⟩ := exists_of_forall₂ (mapM_ok hmap) a ha
  exact h doc a hdoc

/-! ## Scales -/

/-- Every member of a scale is the first one with its text. -/
class Scale.Faithful (α : Type) [Scale α] : Prop where
  ofText?_text (a : α) : Scale.ofText? (Scale.text a) = some a

/-- The texts of a scale are in upper case. -/
class Scale.Capital (α : Type) [Scale α] : Prop where
  upper_text (a : α) : Text.upper (Scale.text a) = Scale.text a

namespace Scale

variable [Scale α] [Faithful α]

@[simp] theorem read_value (a : α) : read (value a) = .ok a := by
  rw [value, read, Faithful.ofText?_text]

@[simp] theorem readUpper_value [Capital α] (a : α) : readUpper (value a) = .ok a := by
  change read (.str (Text.upper (text a))) = _
  rw [Capital.upper_text]
  exact read_value a

end Scale

/-! ## Timestamps -/

/-- The timestamp says which instant it is. -/
def Timestamp.Fixed (t : Timestamp) : Prop := t.offset.isSome

instance (t : Timestamp) : Decidable t.Fixed := inferInstanceAs (Decidable (t.offset.isSome = true))

theorem Timestamp.assumeUtc_of_fixed {t : Timestamp} (h : t.Fixed) : t.assumeUtc = t := if_pos h

theorem Timestamp.fixed_assumeUtc (t : Timestamp) : t.assumeUtc.Fixed := by
  unfold assumeUtc
  split
  · assumption
  · rfl

namespace Value

/-- A timestamp that was read is fixed. -/
theorem fixed_of_asTimestamp {v : Value} {o : Option Timestamp} (h : v.asTimestamp = .ok o) : ∀ t ∈ o, t.Fixed := by
  unfold asTimestamp at h
  split at h
  · cases h
    exact fun _ h => nomatch h
  · cases h
    exact fun _ h => nomatch h
  · cases h
    rintro _ ⟨⟩
    exact Timestamp.fixed_assumeUtc _
  · obtain ⟨text, -, h⟩ := Reading.bind_eq_ok.mp h
    split at h
    · cases h
      rintro _ ⟨⟩
      exact Timestamp.fixed_assumeUtc _
    · cases h
    · cases h

theorem fixed_getD {o : Option Timestamp} {now : Timestamp} (h : ∀ t ∈ o, t.Fixed) (hnow : now.Fixed) : (o.getD now).Fixed := by
  cases o with
  | none => exact hnow
  | some t => exact h t rfl

theorem asTimestamp_str {text : String} (h : text ≠ "") :
    (str text).asTimestamp = match Iso8601.read text with
      | .ok t => .ok (some t.assumeUtc)
      | .error .malformed => .error .badTimestamp
      | .error .outOfRange => .error .calendarRange := by
  unfold asTimestamp
  split
  · next heq => cases heq
  · next heq =>
    injection heq with heq
    injection heq with heq
    exact absurd heq h
  · next heq => cases heq
  · rfl

theorem asTimestamp_format {t : Timestamp} (h : t.Fixed) : (str t.format).asTimestamp = .ok (some t) := by
  have hread := Iso8601.read_format t
  have hne : t.format ≠ "" := fun hnil => by
    rw [hnil] at hread
    cases hread
  rw [asTimestamp_str hne, hread]
  simp only [Timestamp.assumeUtc_of_fixed h]

theorem asTimestamp_toDoc {o : Option Timestamp} (h : ∀ t ∈ o, t.Fixed) : (Timestamp.toDoc o).asTimestamp = .ok o := by
  cases o with
  | none => rfl
  | some t => exact asTimestamp_format (h t rfl)

end Value

/-- **Timestamps round-trip.** Every timestamp with an offset is read from its written form as it was, to the
microsecond and with its offset. Whatever a text is read as, in any of the forms a date and a time of day may have, has an
offset if it is a timestamp at all, and its written form is read as the same and written again as it is. -/
theorem Timestamp.reads_what_it_writes :
    (∀ t : Timestamp, t.Fixed → (Value.str t.format).asTimestamp = .ok (some t)) ∧
    (∀ (text : String) (o : Option Timestamp), (Value.str text).asTimestamp = .ok o →
      (∀ t ∈ o, t.Fixed) ∧ (toDoc o).asTimestamp = .ok o ∧ toDoc <$> (toDoc o).asTimestamp = .ok (toDoc o)) := by
  refine ⟨fun t h => Value.asTimestamp_format h, fun text o h => ?_⟩
  have hfixed := Value.fixed_of_asTimestamp h
  have hread := Value.asTimestamp_toDoc hfixed
  exact ⟨hfixed, hread, by rw [hread]; rfl⟩

/-- The last midnight of the fifty-third week of 2020, east of universal time: a week date whose day of the calendar is of
the next year. -/
theorem Timestamp.reads_what_it_writes_week_date :
    let t : Timestamp := ⟨⟨2021, 1, 4, by decide, by decide, by decide⟩, 0, 0, 0, 0, some ⟨330, by decide⟩⟩
    (Value.str "2020-W53-7T24:00+05:30").asTimestamp = .ok (some t) ∧ t.Fixed ∧
    (Value.str t.format).asTimestamp = .ok (some t) ∧ (toDoc (some t)).asTimestamp = .ok (some t) := by
  intro t
  have hweek : Iso8601.read "2020-W53-7T24:00+05:30" = .ok t := by decide +kernel
  have hread : (Value.str "2020-W53-7T24:00+05:30").asTimestamp = .ok (some t) := by
    rw [Value.asTimestamp_str (by decide), hweek]
    rfl
  have hfixed : t.Fixed := by decide
  exact ⟨hread, hfixed, reads_what_it_writes.1 t hfixed, (reads_what_it_writes.2 _ _ hread).2.1⟩

end SupplyGate
