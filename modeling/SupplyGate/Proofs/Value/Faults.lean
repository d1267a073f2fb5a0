import SupplyGate.Proofs.Value.Reading

/-!
# Faults of readings

A reading that fails tells one fault. `Reading.Blames P x` says what faults `x` can tell at all; a composite
reading is taken apart by `blames_bind`, and the readers of documents by the lemmas beside it. A list is read
up to the first item that fails, so that a reading of the list breaks down just when it `ComesTo` an item that
does, over items that can be read.
-/

namespace SupplyGate

variable {α β : Type}

/-! ## First items that fail -/

/-- Going through a list, some item has `B`, and all items before it have `R`. -/
inductive ComesTo (R B : α → Prop) : List α → Prop where
  | here {a : α} {as : List α} (breaks : B a) : ComesTo R B (a :: as)
  | later {a : α} {as : List α} (read : R a) (rest : ComesTo R B as) : ComesTo R B (a :: as)

@[simp] theorem not_comesTo_nil {R B : α → Prop} : ¬ ComesTo R B [] := by
  rintro ⟨⟩

theorem comesTo_cons {R B : α → Prop} {a : α} {as : List α} :
    ComesTo R B (a :: as) ↔ B a ∨ R a ∧ ComesTo R B as := by
  constructor
  · rintro (h | ⟨h, hrest⟩)
    · exact .inl h
    · exact .inr ⟨h, hrest⟩
  · rintro (h | ⟨h, hrest⟩)
    · exact .here h
    · exact .later h hrest

/-- The positions of the items do not matter. -/
theorem comesTo_zipIdx {R B : α → Prop} : ∀ {as : List α} {i : Nat},
    ComesTo (fun p => R p.1) (fun p => B p.1) (as.zipIdx i) ↔ ComesTo R B as
  | [], i => by simp
  | a :: as, i => by rw [List.zipIdx_cons, comesTo_cons, comesTo_cons, comesTo_zipIdx]

/-! ## Faults -/

namespace Reading

/-- The reading fails, and its fault has `P`. -/
def Tells (P : Fault → Prop) (x : Reading α) : Prop := ∃ f, x = .error f ∧ P f

/-- Whatever fault the reading tells has `P`. -/
def Blames (P : Fault → Prop) (x : Reading α) : Prop := ∀ f, x = .error f → P f

variable {P Q : Fault → Prop}

@[simp] theorem tells_ok {a : α} : ¬ Tells P (.ok a : Reading α) := by
  rintro ⟨f, h, -⟩
  cases h

@[simp] theorem tells_pure {a : α} : ¬ Tells P (pure a : Reading α) := tells_ok

@[simp] theorem tells_error {f : Fault} : Tells P (.error f : Reading α) ↔ P f := by
  simp [Tells]

theorem Blames.mono {x : Reading α} (h : Blames P x) (hPQ : ∀ f, P f → Q f) : Blames Q x := fun f hf =>
  hPQ f (h f hf)

theorem Blames.not_tells {x : Reading α} (h : Blames P x) (hPQ : ∀ f, P f → ¬ Q f) : ¬ Tells Q x := by
  rintro ⟨f, hf, hQ⟩
  exact hPQ f (h f hf) hQ

/-! ### Composite readings -/

theorem tells_bind {x : Reading α} {g : α → Reading β} :
    Tells P (x >>= g) ↔ Tells P x ∨ ∃ a, x = .ok a ∧ Tells P (g a) := by
  cases x with
  | error e => simp [bind, Except.bind]
  | ok a => simp [bind, Except.bind]

@[simp] theorem tells_map {g : α → β} {x : Reading α} : Tells P (g <$> x) ↔ Tells P x := by
  cases x with
  | error e => simp [Functor.map, Except.map]
  | ok a => simp [Functor.map, Except.map]

@[simp] theorem blames_ok {a : α} : Blames P (.ok a : Reading α) := fun _ h => nomatch h

@[simp] theorem blames_pure {a : α} : Blames P (pure a : Reading α) := blames_ok

@[simp] theorem blames_error {f : Fault} : Blames P (.error f : Reading α) ↔ P f := by
  simp [Blames]

@[simp] theorem blames_throw {f : Fault} : Blames P (throw f : Reading α) ↔ P f := blames_error

@[simp] theorem blames_bind {x : Reading α} {g : α → Reading β} :
    Blames P (x >>= g) ↔ Blames P x ∧ ∀ a, x = .ok a → Blames P (g a) := by
  cases x with
  | error e => simp [bind, Except.bind]
  | ok a => simp [bind, Except.bind]

@[simp] theorem blames_map {g : α → β} {x : Reading α} : Blames P (g <$> x) ↔ Blames P x := by
  cases x with
  | error e => simp [Functor.map, Except.map]
  | ok a => simp [Functor.map, Except.map]

theorem blames_mapM {g : α → Reading β} : ∀ {as : List α}, (∀ a ∈ as, Blames P (g a)) → Blames P (as.mapM g)
  | [], _ => blames_pure
  | a :: as, h => by
    rw [List.mapM_cons]
    exact blames_bind.mpr ⟨h a List.mem_cons_self, fun b _ => blames_bind.mpr
      ⟨blames_mapM fun a' ha' => h a' (List.mem_cons_of_mem _ ha'), fun _ _ => blames_pure⟩⟩

theorem blames_foldlM {g : β → α → Reading β} (h : ∀ b a, Blames P (g b a)) : ∀ {as : List α} {b : β}, Blames P (as.foldlM g b)
  | [], _ => blames_pure
  | a :: as, b => by
    rw [List.foldlM_cons]
    exact blames_bind.mpr ⟨h b a, fun _ _ => blames_foldlM h⟩

/-! ### Lists -/

section Lists

variable {R B : α → Prop}

/-- Reading the items of a list fails with `P` where it comes to the first item that does. -/
theorem tells_mapM {g : α → Reading β} (hR : ∀ a, (∃ b, g a = .ok b) ↔ R a) (hB : ∀ a, Tells P (g a) ↔ B a) :
    ∀ {l : List α}, Tells P (l.mapM g) ↔ ComesTo R B l
  | [] => by simp [pure, Except.pure]
  | a :: l => by
    rw [List.mapM_cons, tells_bind, hB, comesTo_cons, ← hR a]
    simp only [tells_bind, tells_mapM hR hB (l := l), pure, Except.pure, tells_ok, and_false,
      exists_false, or_false, exists_and_right]

/-- A fold over a list fails with `P` where it comes to the first item whose step does. -/
theorem tells_foldlM {g : β → α → Reading β} (hR : ∀ b a, (∃ c, g b a = .ok c) ↔ R a)
    (hB : ∀ b a, Tells P (g b a) ↔ B a) :
    ∀ {l : List α} {b : β}, Tells P (l.foldlM g b) ↔ ComesTo R B l
  | [], b => by simp [pure, Except.pure]
  | a :: l, b => by
    rw [List.foldlM_cons, tells_bind, hB, comesTo_cons, ← hR b a]
    simp only [tells_foldlM hR hB (l := l), exists_and_right]

end Lists

end Reading

/-! ## Readers of documents -/

/-- A fault of what a document says: of a value, a key or a kind. -/
def Fault.OfContent (f : Fault) : Prop := f.family = .value ∨ f.family = .key ∨ f.family = .kind

/-- A fault that is not of what a document says. -/
def Fault.Stray (f : Fault) : Prop := ¬ f.OfContent

/-- A fault of a document with dates: also a part that a value lacks, or a day that the calendar lacks. -/
def Fault.OfDocument (f : Fault) : Prop := f.OfContent ∨ f.family = .part ∨ f = .calendarRange

namespace Value

open Reading

theorem field_map (entries : List (Scalar × Value)) (key : String) (default : Value) :
    (map entries).field key default = .ok ((find? key entries).getD default) := rfl

/-- What is no map has no entries to ask for. -/
theorem stray_field {v : Value} (h : ∀ entries, v ≠ .map entries) (key : String) (default : Value) :
    ∃ f, v.field key default = .error f ∧ f.Stray := by
  cases v with
  | map entries => exact absurd rfl (h entries)
  | _ => exact ⟨_, rfl, by simp [Fault.Stray, Fault.OfContent, Fault.family]⟩

@[simp] theorem blames_field (v : Value) (key : String) (default : Value) :
    Blames Fault.OfDocument (v.field key default) := by
  cases v <;> simp [field, field?, Fault.OfDocument, Fault.family]

@[simp] theorem blames_item (v : Value) (key : String) : Blames Fault.OfDocument (v.item key) := by
  unfold item
  repeat' split
  all_goals simp [Fault.OfDocument, Fault.OfContent, Fault.family]

theorem ofContent_asListOrEmpty (v : Value) : Blames Fault.OfContent v.asListOrEmpty := by
  unfold asListOrEmpty asList
  split <;> simp [Fault.OfContent, Fault.family]

@[simp] theorem not_stray_asListOrEmpty (v : Value) : ¬ Tells Fault.Stray v.asListOrEmpty :=
  (ofContent_asListOrEmpty v).not_tells fun _ h hstray => hstray h

@[simp] theorem blames_asListOrEmpty (v : Value) : Blames Fault.OfDocument v.asListOrEmpty :=
  (ofContent_asListOrEmpty v).mono fun _ h => .inl h

theorem ofContent_pairEntries (index : Nat) (entries : List (Scalar × Value)) (items : List Value) :
    Blames Fault.OfContent (pairEntries index entries items) := by
  fun_induction pairEntries index entries items with
  | case1 => exact blames_ok
  | case2 => simp [Fault.OfContent, Fault.family]
  | case3 index entries k w rest v hv ih =>
    refine blames_bind.mpr ⟨?_, fun s _ => ih s⟩
    unfold asScalar
    split <;> simp [Fault.OfContent, Fault.family]
  | case4 => simp [Fault.OfContent, Fault.family]

theorem ofContent_asEntriesOrEmpty (v : Value) : Blames Fault.OfContent v.asEntriesOrEmpty := by
  unfold asEntriesOrEmpty asEntries
  split
  · exact blames_ok
  · refine blames_bind.mpr ⟨?_, fun items _ => ofContent_pairEntries 0 [] items⟩
    unfold asList
    split <;> simp [Fault.OfContent, Fault.family]

@[simp] theorem not_stray_asEntriesOrEmpty (v : Value) : ¬ Tells Fault.Stray v.asEntriesOrEmpty :=
  (ofContent_asEntriesOrEmpty v).not_tells fun _ h hstray => hstray h

theorem ofContent_checkWritable (v : Value) : Blames Fault.OfContent v.checkWritable := by
  unfold checkWritable
  split <;> simp [Fault.OfContent, Fault.family]

theorem ofContent_text (v : Value) : Blames Fault.OfContent v.text :=
  blames_bind.mpr ⟨ofContent_checkWritable v, fun _ _ => blames_pure⟩

@[simp] theorem not_stray_text (v : Value) : ¬ Tells Fault.Stray v.text :=
  (ofContent_text v).not_tells fun _ h hstray => hstray h

@[simp] theorem blames_text (v : Value) : Blames Fault.OfDocument v.text := (ofContent_text v).mono fun _ h => .inl h

@[simp] theorem blames_upperText (v : Value) : Blames Fault.OfDocument v.upperText := blames_map.mpr (blames_text v)

/-- Reading a timestamp strays where the calendar lacks it. -/
@[simp] theorem stray_asTimestamp (v : Value) : Tells Fault.Stray v.asTimestamp ↔ v.asTimestamp = .error .calendarRange := by
  unfold asTimestamp
  split
  · simp
  · simp
  · simp
  · cases htext : v.text with
    | error f =>
      have hf : f.OfContent := ofContent_text v f htext
      have hne : f ≠ .calendarRange := by
        rintro rfl
        simp [Fault.OfContent, Fault.family] at hf
      simp [bind, Except.bind, Fault.Stray, hf, hne]
    | ok text =>
      simp only [bind, Except.bind]
      split <;> simp [Fault.Stray, Fault.OfContent, Fault.family]

@[simp] theorem stray_asFloat (v : Value) : Tells Fault.Stray v.asFloat ↔ ∃ n, v = .int n ∧ Number.ofInt? n = none := by
  unfold asFloat
  repeat' split
  all_goals simp_all [Fault.Stray, Fault.OfContent, Fault.family]

@[simp] theorem blames_asTimestamp (v : Value) : Blames Fault.OfDocument v.asTimestamp := by
  unfold asTimestamp
  split
  · exact blames_ok
  · exact blames_ok
  · exact blames_ok
  · refine blames_bind.mpr ⟨blames_text v, fun text _ => ?_⟩
    split <;> simp [Fault.OfDocument, Fault.OfContent, Fault.family]

/-- Reading the records of a list tells nothing but what reading one of them can tell. -/
theorem blames_asRecordsOrEmpty {P : Fault → Prop} {ofDoc : Value → Reading α} (h : ∀ v, Blames P (ofDoc v))
    (hP : ∀ f, f.OfContent → P f) (v : Value) : Blames P (v.asRecordsOrEmpty ofDoc) :=
  blames_bind.mpr ⟨(ofContent_asListOrEmpty v).mono hP, fun _ _ => blames_mapM fun w _ => h w⟩

end Value

namespace Scale

open Reading

variable [Scale α]

theorem ofContent_read (v : Value) : Blames Fault.OfContent (read v : Reading α) := by
  unfold read
  split
  · split <;> simp [Fault.OfContent, Fault.family]
  · refine blames_bind.mpr ⟨Value.ofContent_checkWritable v, fun _ _ => ?_⟩
    simp [Fault.OfContent, Fault.family]

theorem ofContent_readUpper (v : Value) : Blames Fault.OfContent (readUpper v : Reading α) :=
  blames_bind.mpr ⟨blames_map.mpr (Value.ofContent_text v), fun _ _ => ofContent_read _⟩

theorem ofContent_readLower (v : Value) : Blames Fault.OfContent (readLower v : Reading α) :=
  blames_bind.mpr ⟨blames_map.mpr (Value.ofContent_text v), fun _ _ => ofContent_read _⟩

@[simp] theorem not_stray_read (v : Value) : ¬ Tells Fault.Stray (read v : Reading α) :=
  (ofContent_read v).not_tells fun _ h hstray => hstray h

@[simp] theorem blames_read (v : Value) : Blames Fault.OfDocument (read v : Reading α) :=
  (ofContent_read v).mono fun _ h => .inl h

@[simp] theorem not_stray_readUpper (v : Value) : ¬ Tells Fault.Stray (readUpper v : Reading α) :=
  (ofContent_readUpper v).not_tells fun _ h hstray => hstray h

@[simp] theorem blames_readUpper (v : Value) : Blames Fault.OfDocument (readUpper v : Reading α) :=
  (ofContent_readUpper v).mono fun _ h => .inl h

@[simp] theorem not_stray_readLower (v : Value) : ¬ Tells Fault.Stray (readLower v : Reading α) :=
  (ofContent_readLower v).not_tells fun _ h hstray => hstray h

@[simp] theorem blames_readLower (v : Value) : Blames Fault.OfDocument (readLower v : Reading α) :=
  (ofContent_readLower v).mono fun _ h => .inl h

end Scale

end SupplyGate
