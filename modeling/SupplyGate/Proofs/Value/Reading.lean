import Mathlib.Data.List.Forall2
import SupplyGate.Value.Loose

/-!
# Readings that give something

Composite readings taken apart: a reading of several steps gives something just when each of its
steps does.
-/

namespace SupplyGate

variable {α β : Type}

theorem Reading.bind_eq_ok {x : Reading α} {f : α → Reading β} {b : β} :
    x >>= f = .ok b ↔ ∃ a, x = .ok a ∧ f a = .ok b := by
  cases x with
  | error e => simp [bind, Except.bind]
  | ok a => simp [bind, Except.bind]

@[simp] theorem Reading.pure_eq_ok {a b : α} : (pure a : Reading α) = .ok b ↔ a = b := by
  simp [pure, Except.pure]

theorem Reading.discard_eq_ok {x : Reading α} {u : PUnit} : Functor.discard x = .ok u ↔ ∃ a, x = .ok a := by
  cases x with
  | error e => simp [Functor.discard, Functor.mapConst, Except.map]
  | ok a => simp [Functor.discard, Functor.mapConst, Except.map]

theorem Value.asScalar_ok_iff {v : Value} : (∃ k, v.asScalar = .ok k) ↔ ∃ k, v = .scalar k := by
  unfold asScalar
  split <;> simp_all

/-! ## Texts -/

/-- Only a text equals a text. -/
theorem Value.eq_str_of_same {v : Value} {t : String} (h : v.same (.str t) = true) : v = .str t := by
  cases v with
  | scalar k =>
    cases k with
    | str s => simpa [Value.same, Scalar.same, Scalar.key] using h
    | _ => simp [Value.same, Scalar.same, Scalar.key] at h
  | list items => simp [Value.same] at h
  | map entries => simp [Value.same] at h

@[simp] theorem Value.rendered_str (s : String) : (Value.str s).rendered = s := rfl

@[simp] theorem Value.isWritable_str (s : String) : (Value.str s).isWritable = true := rfl

@[simp] theorem Value.text_str (s : String) : (Value.str s).text = .ok s := rfl

theorem Value.text_writable {v : Value} (h : v.isWritable = true) : v.text = .ok v.rendered := by
  rw [text, checkWritable, if_pos h]
  rfl

theorem Value.text_unwritable {v : Value} (h : v.isWritable = false) : v.text = .error .longNumber := by
  rw [text, checkWritable, h]
  rfl

theorem Value.text_eq_ok {v : Value} {s : String} : v.text = .ok s ↔ v.isWritable = true ∧ s = v.rendered := by
  cases h : v.isWritable with
  | true => simp [text_writable h, eq_comm]
  | false => simp [text_unwritable h]

theorem Value.checkWritable_eq_ok {v : Value} {u : Unit} : v.checkWritable = .ok u ↔ v.isWritable = true := by
  unfold checkWritable
  split <;> simp_all

theorem Value.checkAll_eq_ok {vs : List Value} {u : Unit} : checkAll vs = .ok u ↔ ∀ v ∈ vs, v.isWritable = true := by
  unfold checkAll
  split <;> simp_all

theorem Scalar.same_str {a b : String} : (Scalar.str a).same (.str b) = (a == b) := by
  rw [Bool.eq_iff_iff]
  simp [Scalar.same, Scalar.key]

theorem Scalar.same_str_iff {t : String} {k : Scalar} : (Scalar.str t).same k = true ↔ k = .str t := by
  cases k with
  | str s =>
    simp only [Scalar.same, Scalar.key, Scalar.str.injEq]
    simpa using eq_comm
  | _ => simp [Scalar.same, Scalar.key]

/-- What has the text of a member of a scale is read as that member. -/
theorem Scale.read_ok [Scale α] {text : String} {a : α} (h : Scale.ofText? text = some a) :
    Scale.read (.str text) = .ok a := by
  rw [read, h]

theorem Loose.part_eq_ok {field : Loose α} {name : String} {a : α} : field.part name = .ok a ↔ field = .held a := by
  cases field <;> simp [Loose.part]

/-! ## Times -/

/-- A time is of the kind of one that is taken as universal time if it has an offset. -/
theorem Timestamp.checkKinds_assumeUtc {operation : String} {s t : Timestamp} {u : Unit} :
    checkKinds operation t.assumeUtc s = .ok u ↔ s.offset.isSome = true := by
  have ht : t.assumeUtc.offset.isSome = true := by
    unfold assumeUtc
    split
    · assumption
    · rfl
  unfold checkKinds
  rw [ht]
  cases s.offset.isSome <;> simp

theorem Timestamp.daysFrom_assumeUtc {s t : Timestamp} : (∃ n, s.daysFrom t.assumeUtc = .ok n) ↔ s.offset.isSome = true := by
  have hswap : checkKinds "subtract" s t.assumeUtc = checkKinds "subtract" t.assumeUtc s := by
    simp only [checkKinds, Bool.beq_comm]
  unfold daysFrom
  rw [hswap, ← @checkKinds_assumeUtc "subtract" s t ()]
  cases checkKinds "subtract" t.assumeUtc s with
  | error f => simp [bind, Except.bind]
  | ok _ => simp [bind, Except.bind, pure, Except.pure]

/-! ## Lists -/

theorem filterAuxM_ok {f : α → Reading Bool} {g : α → Bool} :
    ∀ {l acc m : List α}, (∀ a ∈ l, ∀ b, f a = .ok b → b = g a) →
      l.filterAuxM f acc = .ok m → m = (l.filter g).reverse ++ acc
  | [], acc, m, _, h => by
    cases h
    rfl
  | a :: l, acc, m, hg, h => by
    rw [List.filterAuxM] at h
    obtain ⟨b, hb, h⟩ := Reading.bind_eq_ok.mp h
    have hl := filterAuxM_ok (fun a' ha' => hg a' (List.mem_cons_of_mem _ ha')) h
    rw [hl, List.filter_cons, ← hg a List.mem_cons_self b hb]
    cases b <;> simp

/-- A filter by readings is the filter by what they give. -/
theorem filterM_ok {f : α → Reading Bool} {g : α → Bool} {l m : List α}
    (hg : ∀ a ∈ l, ∀ b, f a = .ok b → b = g a) (h : l.filterM f = .ok m) : m = l.filter g := by
  obtain ⟨r, hr, h⟩ := Reading.bind_eq_ok.mp h
  cases h
  rw [filterAuxM_ok hg hr, List.append_nil, List.reverse_reverse]

theorem filterAuxM_eq_ok {f : α → Reading Bool} {g : α → Bool} :
    ∀ {l acc : List α}, (∀ a ∈ l, f a = .ok (g a)) →
      l.filterAuxM f acc = .ok ((l.filter g).reverse ++ acc)
  | [], acc, _ => rfl
  | a :: l, acc, h => by
    have hl : ∀ acc, l.filterAuxM f acc = .ok ((l.filter g).reverse ++ acc) := fun acc =>
      filterAuxM_eq_ok fun a' ha' => h a' (List.mem_cons_of_mem _ ha')
    rw [List.filterAuxM, h a List.mem_cons_self, List.filter_cons]
    change l.filterAuxM f (bif g a then a :: acc else acc) = _
    rw [hl]
    cases g a <;> simp

/-- A filter by readings gives something where all of them do. -/
theorem filterM_eq_ok {f : α → Reading Bool} {g : α → Bool} {l : List α} (h : ∀ a ∈ l, f a = .ok (g a)) :
    l.filterM f = .ok (l.filter g) := by
  rw [List.filterM, filterAuxM_eq_ok h]
  simp [bind, Except.bind, pure, Except.pure]

/-- A filter by readings takes items that are changed without their readings as it takes the items. -/
theorem filterM_map {q : α → Reading Bool} {f : α → α} (hf : ∀ a, q (f a) = q a) (as : List α) :
    (as.map f).filterM q = (as.filterM q).map (List.map f) := by
  have haux : ∀ (as acc : List α),
      (as.map f).filterAuxM q (acc.map f) = (as.filterAuxM q acc).map (List.map f) := by
    intro as
    induction as with
    | nil => exact fun _ => rfl
    | cons a as ih =>
      intro acc
      rw [List.map_cons, List.filterAuxM, List.filterAuxM, hf]
      cases q a with
      | error e => rfl
      | ok b =>
        cases b with
        | false => exact ih acc
        | true => exact ih (a :: acc)
  have hnil := haux as []
  rw [List.map_nil] at hnil
  rw [List.filterM, List.filterM, hnil]
  cases as.filterAuxM q [] with
  | error e => rfl
  | ok bs => simp [bind, Except.bind, pure, Except.pure, Except.map]

/-- What is listed under a key, once, is found under it. -/
theorem lookup_of_mem [BEq α] [LawfulBEq α] {es : List (α × β)} (hkeys : (es.map (·.1)).Nodup) {key : α} {v : β}
    (h : (key, v) ∈ es) : es.lookup key = some v := by
  induction es with
  | nil => cases h
  | cons e es ih =>
    obtain ⟨hnew, hkeys⟩ := List.nodup_cons.mp hkeys
    rw [List.lookup_cons]
    rcases List.mem_cons.mp h with rfl | h
    · rw [beq_self_eq_true]
    · have hkey : key ∈ es.map (·.1) := List.mem_map_of_mem (f := (·.1)) h
      have hne : key ≠ e.1 := fun heq => hnew (show e.1 ∈ _ from heq ▸ hkey)
      rw [beq_false_of_ne hne]
      exact ih hkeys h

/-- Lists of held items are the same only if the items are. -/
theorem Loose.map_held_inj {as as' : List α} (h : as.map Loose.held = as'.map .held) : as = as' :=
  List.map_injective_iff.mpr (fun _ _ => Loose.held.inj) h

/-- Two lists are related by a function and a property when the one is the image of the other, which has the property. -/
theorem forall₂_graph {f : α → β} {F : α → Prop} {as : List α} {bs : List β} :
    List.Forall₂ (fun a b => b = f a ∧ F a) as bs ↔ bs = as.map f ∧ ∀ a ∈ as, F a := by
  constructor
  · intro h
    induction h with
    | nil => exact ⟨rfl, fun _ h => nomatch h⟩
    | cons h _ ih => exact ⟨by rw [List.map_cons, h.1, ih.1], List.forall_mem_cons.mpr ⟨h.2, ih.2⟩⟩
  · rintro ⟨rfl, h⟩
    exact List.forall₂_map_right_iff.mpr (List.forall₂_same.mpr fun a ha => ⟨rfl, h a ha⟩)

/-- Each item of the second of two related lists is related to one of the first. -/
theorem exists_of_forall₂ {R : α → β → Prop} {as : List α} {bs : List β} (h : List.Forall₂ R as bs) :
    ∀ b ∈ bs, ∃ a ∈ as, R a b := by
  induction h with
  | nil => simp
  | @cons a b as bs hab _ ih =>
    intro b' hb'
    rcases List.mem_cons.mp hb' with rfl | hb'
    · exact ⟨a, List.mem_cons_self, hab⟩
    · obtain ⟨a', ha', hR⟩ := ih b' hb'
      exact ⟨a', List.mem_cons_of_mem _ ha', hR⟩

/-- What relates two lists relates each item to one of the second list. -/
theorem forall₂_mem_right {R : α → β → Prop} {as : List α} {bs : List β} (h : List.Forall₂ R as bs) :
    List.Forall₂ (fun a b => b ∈ bs ∧ R a b) as bs :=
  ((List.forall₂_and_left (p := (· ∈ bs)) _ _).mpr ⟨fun _ hb => hb, h.flip⟩).flip

theorem forall₂_comp {γ : Type} {R : α → β → Prop} {S : β → γ → Prop} : ∀ {as : List α} {bs : List β} {cs : List γ},
    List.Forall₂ R as bs → List.Forall₂ S bs cs → List.Forall₂ (fun a c => ∃ b, R a b ∧ S b c) as cs
  | _, _, _, .nil, .nil => .nil
  | _, _, _, .cons hab habs, .cons hbc hbcs => .cons ⟨_, hab, hbc⟩ (forall₂_comp habs hbcs)

theorem Reading.mapM_cons_eq_ok {f : α → Reading β} {a : α} {as : List α} {bs : List β} :
    (a :: as).mapM f = .ok bs ↔ ∃ b cs, f a = .ok b ∧ as.mapM f = .ok cs ∧ bs = b :: cs := by
  simp only [List.mapM_cons, bind_eq_ok, pure_eq_ok]
  constructor
  · rintro ⟨b, hb, cs, hcs, rfl⟩
    exact ⟨b, cs, hb, hcs, rfl⟩
  · rintro ⟨b, cs, hb, hcs, rfl⟩
    exact ⟨b, hb, cs, hcs, rfl⟩

/-- Where it is known what the reading of an item gives and when, it is known of a list. -/
theorem Reading.mapM_eq_ok_iff {f : α → Reading β} {g : α → β} {C : α → Prop} (h : ∀ a b, f a = .ok b ↔ b = g a ∧ C a)
    {as : List α} {bs : List β} : as.mapM f = .ok bs ↔ bs = as.map g ∧ ∀ a ∈ as, C a := by
  induction as generalizing bs with
  | nil =>
    rw [List.mapM_nil, pure_eq_ok]
    simp [eq_comm]
  | cons a as ih =>
    simp only [mapM_cons_eq_ok, h, ih, List.map_cons, List.forall_mem_cons]
    constructor
    · rintro ⟨_, _, ⟨rfl, ha⟩, ⟨rfl, has⟩, rfl⟩
      exact ⟨rfl, ha, has⟩
    · rintro ⟨rfl, ha, has⟩
      exact ⟨_, _, ⟨rfl, ha⟩, ⟨rfl, has⟩, rfl⟩

/-- A list that was read item by item. -/
theorem mapM_ok {f : α → Reading β} : ∀ {l : List α} {m : List β},
    l.mapM f = .ok m → List.Forall₂ (fun a b => f a = .ok b) l m
  | [], m, h => by
    rw [List.mapM_nil] at h
    obtain rfl := Reading.pure_eq_ok.mp h
    exact .nil
  | a :: l, m, h => by
    rw [List.mapM_cons] at h
    obtain ⟨b, hb, h⟩ := Reading.bind_eq_ok.mp h
    obtain ⟨bs, hbs, h⟩ := Reading.bind_eq_ok.mp h
    obtain rfl := Reading.pure_eq_ok.mp h
    exact .cons hb (mapM_ok hbs)

/-- A list can be read where each of its items can. -/
theorem exists_mapM_ok {f : α → Reading β} : ∀ {l : List α}, (∀ a ∈ l, ∃ b, f a = .ok b) → ∃ m, l.mapM f = .ok m
  | [], _ => ⟨[], rfl⟩
  | a :: l, h => by
    obtain ⟨b, hb⟩ := h a List.mem_cons_self
    obtain ⟨m, hm⟩ := exists_mapM_ok fun a' ha' => h a' (List.mem_cons_of_mem _ ha')
    exact ⟨b :: m, Reading.mapM_cons_eq_ok.mpr ⟨b, m, hb, hm, rfl⟩⟩

/-- Each item of a list that was read with the positions gave one of the results. -/
theorem exists_of_zipIdx_mapM_ok {f : α × Nat → Reading β} {l : List α} {m : List β}
    (h : l.zipIdx.mapM f = .ok m) {a : α} (ha : a ∈ l) : ∃ i, ∃ b ∈ m, f (a, i) = .ok b := by
  obtain ⟨i, hi, rfl⟩ := List.mem_iff_getElem.mp ha
  have hmem : (l[i], i) ∈ l.zipIdx := List.mk_mem_zipIdx_iff_getElem?.mpr (List.getElem?_eq_getElem hi)
  obtain ⟨b, hb, hf⟩ := exists_of_forall₂ (mapM_ok h).flip _ hmem
  exact ⟨i, b, hb, hf⟩

/-- A fold goes through just when each item meets the condition under which its step does. -/
theorem foldlM_ok_iff {f : β → α → Reading β} {C : α → Prop} : ∀ {l : List α} {b : β},
    (∀ a ∈ l, ∀ b, (∃ b', f b a = .ok b') ↔ C a) → ((∃ b', l.foldlM f b = .ok b') ↔ ∀ a ∈ l, C a)
  | [], b, _ => by simp [pure, Except.pure]
  | a :: l, b, h => by
    have ha := h a List.mem_cons_self b
    have hl : ∀ b', (∃ b'', l.foldlM f b' = .ok b'') ↔ ∀ a ∈ l, C a := fun b' =>
      foldlM_ok_iff fun a' ha' => h a' (List.mem_cons_of_mem _ ha')
    rw [List.foldlM_cons, List.forall_mem_cons, ← ha]
    simp only [Reading.bind_eq_ok]
    constructor
    · rintro ⟨c, b', hb', hc⟩
      exact ⟨⟨b', hb'⟩, (hl b').mp ⟨c, hc⟩⟩
    · rintro ⟨⟨b', hb'⟩, hC⟩
      obtain ⟨c, hc⟩ := (hl b').mpr hC
      exact ⟨c, b', hb', hc⟩

/-- A fold goes through and keeps what each of its steps does. -/
theorem exists_foldlM_ok {f : β → α → Reading β} {P : β → Prop} : ∀ {l : List α} {b : β},
    (∀ a ∈ l, ∀ b, P b → ∃ b', f b a = .ok b' ∧ P b') → P b → ∃ b', l.foldlM f b = .ok b' ∧ P b'
  | [], b, _, hb => ⟨b, rfl, hb⟩
  | a :: l, b, h, hb => by
    obtain ⟨c, hc, hPc⟩ := h a List.mem_cons_self b hb
    obtain ⟨d, hd, hPd⟩ := exists_foldlM_ok (fun a' ha' => h a' (List.mem_cons_of_mem _ ha')) hPc
    rw [List.foldlM_cons]
    exact ⟨d, Reading.bind_eq_ok.mpr ⟨c, hc, hd⟩, hPd⟩

/-- A fold that goes through keeps what each of its steps keeps. -/
theorem foldlM_keeps {f : β → α → Reading β} {P : β → Prop} : ∀ {l : List α} {b b' : β},
    (∀ a ∈ l, ∀ c c', P c → f c a = .ok c' → P c') → P b → l.foldlM f b = .ok b' → P b'
  | [], b, b', _, hb, hfold => by
    obtain rfl := Reading.pure_eq_ok.mp hfold
    exact hb
  | a :: l, b, b', h, hb, hfold => by
    obtain ⟨c, hc, hfold⟩ := Reading.bind_eq_ok.mp hfold
    exact foldlM_keeps (fun a' ha' => h a' (List.mem_cons_of_mem _ ha')) (h a List.mem_cons_self b c hb hc) hfold

end SupplyGate
