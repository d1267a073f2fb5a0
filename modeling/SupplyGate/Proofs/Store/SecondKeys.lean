import Mathlib.Data.List.Nodup
import SupplyGate.Proofs.Store.Memory

/-!
# Second keys

A store in memory holds its records and its index in two places, which an operation writes one after the other. Run in
this way, an operation that is refused may have written to the one or to the other before. None has: each operation
writes nothing until nothing can refuse it any more, so that it does to the store in place what the operation as a
reading says, and leaves it alone where the reading fails (`Call.perform_eq`).

Over any calls, each of which gives a record an id and changes no id, the index and the records stay together
(`Linked`). A second key leads to the record that was inserted under it and not deleted since (`Run.mem_index_iff`), so
that finding or adding under it changes this record, or else adds one, and deleting a record takes all its second keys
away.
-/

namespace SupplyGate.MemoryStore

variable {α : Type} [Stored α]

/-- A call that writes to a store. -/
inductive Call (α : Type) where
  | put (a : α)
  | add (a : α)
  | delete (id : Value)
  | getOrAdd (key : String) (a : α) (change : α → α)

/-- What a call gives. -/
inductive Answer (α : Type) where
  | done
  | deleted (found : Bool)
  | found (record : Found α)

/-- What a call comes to: what it gives, or the fault for which it is refused. -/
abbrev Outcome (α : Type) := Except Fault (Answer α)

/-- A call as a reading: what it gives, and the store afterwards. -/
def Call.answer (s : MemoryStore α) : Call α → Reading (Answer α × MemoryStore α)
  | .put a => do return (.done, ← s.put a)
  | .add a => do return (.done, ← s.add a)
  | .delete id => do let (found, t) ← s.delete id; return (.deleted found, t)
  | .getOrAdd key a change => do let (record, t) ← s.getOrAdd key a change; return (.found record, t)

/-! ## Writing in place -/

/-- Something that writes to a store in place, and can be refused at any point. -/
abbrev InPlace (α β : Type) := ExceptT Fault (StateM (MemoryStore α)) β

namespace InPlace

variable {β γ : Type}

/-- What something comes to on a store, and the store that it leaves. -/
def outcome (x : InPlace α β) (s : MemoryStore α) : Except Fault β × MemoryStore α := x.run.run s

/-- What a reading gives, without a look at the store. -/
def reading (x : Reading β) : InPlace α β := ExceptT.mk (pure x)

/-- Write the records. -/
def writeRecords (f : List (Key × α) → List (Key × α)) : InPlace α Unit :=
  modify fun s => { s with records := f s.records }

/-- Write the index. -/
def writeIndex (f : List (String × Key) → List (String × Key)) : InPlace α Unit :=
  modify fun s => { s with index := f s.index }

/-- Put a record in. -/
def put (a : α) : InPlace α Unit := do
  let k ← reading (keyOf a)
  writeRecords (replace k a)

/-- Add a record under a free id. -/
def add (a : α) : InPlace α Unit := do
  let k ← reading (keyOf a)
  if ((← getThe (MemoryStore α)).lookup k).isSome then throw (.naming .duplicate (Stored.ident a))
  put a

/-- Take the record with an id away, and then its second keys. -/
def delete (id : Value) : InPlace α Bool := do
  let k ← reading id.asKey
  if ((← getThe (MemoryStore α)).lookup k).isNone then return false
  writeRecords (·.filter fun (l, _) => l ≠ k)
  writeIndex (·.filter fun (_, l) => l ≠ k)
  return true

/-- Change the record that a second key stands for, or add this one and then its second key. -/
def getOrAdd (key : String) (a : α) (change : α → α) : InPlace α (Found α) := do
  match (← getThe (MemoryStore α)).byIndex key with
  | some (_, old) =>
    put (change old)
    return ⟨change old, some old⟩
  | none =>
    add a
    let k ← reading (keyOf a)
    writeIndex (setIndex key k)
    return ⟨a, none⟩

end InPlace

/-- A call that is carried out in place. -/
def Call.inPlace : Call α → InPlace α (Answer α)
  | .put a => do InPlace.put a; return .done
  | .add a => do InPlace.add a; return .done
  | .delete id => do return .deleted (← InPlace.delete id)
  | .getOrAdd key a change => do return .found (← InPlace.getOrAdd key a change)

/-- What a call comes to on a store, and the store that it leaves. -/
def Call.perform (c : Call α) (s : MemoryStore α) : Outcome α × MemoryStore α := c.inPlace.outcome s

/-! ## All or nothing -/

/-- What a reading gives with the store afterwards, or its fault with the store as it is. -/
def allOrNothing {β : Type} (s : MemoryStore α) : Reading (β × MemoryStore α) → Except Fault β × MemoryStore α
  | .ok (b, t) => (.ok b, t)
  | .error f => (.error f, s)

namespace InPlace

variable {β γ : Type} {s : MemoryStore α}

omit [Stored α] in
theorem outcome_bind (x : InPlace α β) (f : β → InPlace α γ) : (x >>= f).outcome s =
    match x.outcome s with
    | (.ok b, t) => (f b).outcome t
    | (.error e, t) => (.error e, t) := by
  change (match x.run.run s with | (r, t) => StateT.run (ExceptT.bindCont f r) t) = _
  unfold outcome
  rcases x.run.run s with ⟨_ | b, t⟩ <;> rfl

omit [Stored α] in
@[simp] theorem outcome_reading_bind (b : β) (f : β → InPlace α γ) :
    (reading (.ok b) >>= f).outcome s = (f b).outcome s := rfl

omit [Stored α] in
@[simp] theorem outcome_get_bind (f : MemoryStore α → InPlace α γ) :
    (getThe (MemoryStore α) >>= f).outcome s = (f s).outcome s := rfl

theorem outcome_put (a : α) : (put a).outcome s = allOrNothing s (do return ((), ← s.put a)) := by
  unfold put MemoryStore.put
  cases keyOf a <;> rfl

theorem outcome_add (a : α) : (add a).outcome s = allOrNothing s (do return ((), ← s.add a)) := by
  unfold add
  cases hk : keyOf a with
  | error f =>
    rw [MemoryStore.add, hk]
    rfl
  | ok k =>
    rw [outcome_reading_bind, outcome_get_bind]
    cases hl : s.lookup k with
    | some b =>
      have hadd : s.add a = .error (.naming .duplicate (Stored.ident a)) := by
        simp [MemoryStore.add, hk, hl, bind, Except.bind, throw, throwThe, MonadExceptOf.throw]
      rw [hadd]
      rfl
    | none =>
      have hadd : s.add a = .ok (s.store k a) := add_ok.mpr ⟨k, hk, hl, rfl⟩
      have hput : s.put a = .ok (s.store k a) := put_ok.mpr ⟨k, hk, rfl⟩
      have hagain := @outcome_put _ _ s a
      rw [hput] at hagain
      rw [hadd]
      exact hagain

omit [Stored α] in
/-- The second keys of a record go after the record, both or neither. -/
theorem outcome_delete (id : Value) : (delete (α := α) id).outcome s = allOrNothing s (s.delete id) := by
  unfold delete
  cases hk : id.asKey with
  | error f =>
    rw [MemoryStore.delete, hk]
    rfl
  | ok k =>
    rw [outcome_reading_bind, outcome_get_bind]
    cases hl : s.lookup k with
    | some b =>
      have hdelete : s.delete id = .ok (true, s.erase k) := by
        simp [MemoryStore.delete, hk, hl, bind, Except.bind, pure, Except.pure]
      rw [hdelete]
      rfl
    | none =>
      have hdelete : s.delete id = .ok (false, s) := by
        simp [MemoryStore.delete, hk, hl, bind, Except.bind, pure, Except.pure]
      rw [hdelete]
      rfl

/-- A second key is set after the record was added, which nothing can refuse. -/
theorem outcome_getOrAdd (key : String) (a : α) (change : α → α) :
    (getOrAdd key a change).outcome s = allOrNothing s (s.getOrAdd key a change) := by
  unfold getOrAdd MemoryStore.getOrAdd
  rw [outcome_get_bind]
  cases s.byIndex key with
  | some e =>
    obtain ⟨k, old⟩ := e
    change (put (change old) >>= _).outcome s = _
    rw [outcome_bind, outcome_put]
    dsimp only
    cases s.put (change old) <;> rfl
  | none =>
    change (add a >>= _).outcome s = _
    rw [outcome_bind, outcome_add]
    dsimp only
    cases hadd : s.add a with
    | error f => rfl
    | ok t =>
      obtain ⟨k, hk, -, -⟩ := add_ok.mp hadd
      rw [hk]
      rfl

end InPlace

/-- Calls write all or nothing. -/
theorem Call.perform_eq (c : Call α) : c.perform s = allOrNothing s (c.answer s) := by
  unfold perform
  cases c with
  | put a =>
    change (InPlace.put a >>= _).outcome s = _
    rw [InPlace.outcome_bind, InPlace.outcome_put, answer]
    cases s.put a <;> rfl
  | add a =>
    change (InPlace.add a >>= _).outcome s = _
    rw [InPlace.outcome_bind, InPlace.outcome_add, answer]
    cases s.add a <;> rfl
  | delete id =>
    change (InPlace.delete id >>= _).outcome s = _
    rw [InPlace.outcome_bind, InPlace.outcome_delete, answer]
    cases s.delete id <;> rfl
  | getOrAdd key a change =>
    change (InPlace.getOrAdd key a change >>= _).outcome s = _
    rw [InPlace.outcome_bind, InPlace.outcome_getOrAdd, answer]
    cases s.getOrAdd key a change <;> rfl

/-! ## Single calls -/

/-- What a call can come to, and the store that it leaves. -/
inductive Performed (s : MemoryStore α) : Call α → Outcome α → MemoryStore α → Prop where
  | put {a : α} {k : Key} (keyed : keyOf a = .ok k) : Performed s (.put a) (.ok .done) (s.store k a)
  | add {a : α} {k : Key} (keyed : keyOf a = .ok k) (free : s.lookup k = none) :
    Performed s (.add a) (.ok .done) (s.store k a)
  | delete {id : Value} {k : Key} (keyed : id.asKey = .ok k) (here : (s.lookup k).isSome) :
    Performed s (.delete id) (.ok (.deleted true)) (s.erase k)
  | deleteAbsent {id : Value} : Performed s (.delete id) (.ok (.deleted false)) s
  | refresh {key : String} {a old : α} {change : α → α} {k l : Key} (here : s.byIndex key = some (k, old))
      (keyed : keyOf (change old) = .ok l) :
    Performed s (.getOrAdd key a change) (.ok (.found ⟨change old, some old⟩)) (s.store l (change old))
  | insert {key : String} {a : α} {change : α → α} {k : Key} (absent : s.byIndex key = none)
      (keyed : keyOf a = .ok k) (free : s.lookup k = none) :
    Performed s (.getOrAdd key a change) (.ok (.found ⟨a, none⟩)) { s.store k a with index := setIndex key k s.index }
  | refused {c : Call α} {f : Fault} : Performed s c (.error f) s

theorem performed (c : Call α) (s : MemoryStore α) : Performed s c (c.perform s).1 (c.perform s).2 := by
  rw [c.perform_eq]
  cases hanswer : c.answer s with
  | error f => exact .refused
  | ok r =>
    obtain ⟨ans, t⟩ := r
    change Performed s c (.ok ans) t
    cases c with
    | put a =>
      obtain ⟨u, hu, h⟩ := Reading.bind_eq_ok.mp hanswer
      cases h
      obtain ⟨k, hk, rfl⟩ := put_ok.mp hu
      exact .put hk
    | add a =>
      obtain ⟨u, hu, h⟩ := Reading.bind_eq_ok.mp hanswer
      cases h
      obtain ⟨k, hk, hfree, rfl⟩ := add_ok.mp hu
      exact .add hk hfree
    | delete id =>
      obtain ⟨⟨found, u⟩, hu, h⟩ := Reading.bind_eq_ok.mp hanswer
      cases h
      obtain ⟨k, hk, hu⟩ := Reading.bind_eq_ok.mp hu
      split at hu
      · next hhere =>
        cases hu
        exact .delete hk hhere
      · cases hu
        exact .deleteAbsent
    | getOrAdd key a change =>
      obtain ⟨⟨found, u⟩, hu, h⟩ := Reading.bind_eq_ok.mp hanswer
      cases h
      rcases getOrAdd_ok hu with ⟨k, old, hr⟩ | ⟨k, hadded⟩
      · obtain ⟨l, hl, rfl⟩ := hr.store_eq
        rw [hr.found_eq]
        exact .refresh hr.here hl
      · rw [hadded.found_eq, hadded.store_eq]
        exact .insert hadded.absent hadded.keyed hadded.free

section Perform

variable {s : MemoryStore α} {key : String} {a old : α} {change : α → α} {k l : Key}

theorem perform_getOrAdd_of_some (h : s.byIndex key = some (k, old)) (hl : keyOf (change old) = .ok l) :
    (Call.getOrAdd key a change).perform s = (.ok (.found ⟨change old, some old⟩), s.store l (change old)) := by
  rw [Call.perform_eq, Call.answer, getOrAdd_of_some h hl]
  rfl

theorem perform_getOrAdd_of_none (h : s.byIndex key = none) (hk : keyOf a = .ok k) (hfree : s.lookup k = none) :
    (Call.getOrAdd key a change).perform s =
      (.ok (.found ⟨a, none⟩), { s.store k a with index := setIndex key k s.index }) := by
  rw [Call.perform_eq, Call.answer, getOrAdd_of_none h hk hfree]
  rfl

theorem perform_delete {id : Value} (hk : id.asKey = .ok k) (here : (s.lookup k).isSome) :
    (Call.delete id).perform s = (.ok (.deleted true), s.erase k) := by
  rw [Call.perform_eq, Call.answer, MemoryStore.delete, hk]
  simp only [bind, Except.bind, here, if_true]
  rfl

/-! An id that is in use is not added again. -/

theorem add_taken (hk : keyOf a = .ok k) (here : (s.lookup k).isSome) :
    s.add a = .error (.naming .duplicate (Stored.ident a)) := by
  simp [MemoryStore.add, hk, here, bind, Except.bind, throw, throwThe, MonadExceptOf.throw]

theorem perform_add_taken (hk : keyOf a = .ok k) (here : (s.lookup k).isSome) :
    (Call.add a).perform s = (.error (.naming .duplicate (Stored.ident a)), s) := by
  rw [Call.perform_eq, Call.answer, add_taken hk here]
  rfl

theorem perform_getOrAdd_taken (h : s.byIndex key = none) (hk : keyOf a = .ok k) (here : (s.lookup k).isSome) :
    (Call.getOrAdd key a change).perform s = (.error (.naming .duplicate (Stored.ident a)), s) := by
  rw [Call.perform_eq, Call.answer, MemoryStore.getOrAdd, h, add_taken hk here]
  rfl

end Perform

/-- The id of a record is not empty. -/
def Named (a : α) : Prop := ∀ k, keyOf a = .ok k → isEmptyKey k = false

/-- The records that a call brings have ids, and a record that it changes keeps its id. -/
def Call.Careful (s : MemoryStore α) : Call α → Prop
  | .put a => Named a
  | .add a => Named a
  | .delete _ => True
  | .getOrAdd key a change => Named a ∧ ∀ k old, s.byIndex key = some (k, old) → keyOf (change old) = keyOf old

/-! ## The index and the records -/

/-- Each record stands under the key of its id, which is not empty. The index has a second key once, gives it to a
record on store, and gives a record one second key at most. -/
structure Linked (s : MemoryStore α) : Prop where
  keyed : s.Every fun k a => keyOf a = .ok k ∧ isEmptyKey k = false
  stored : ∀ e ∈ s.index, (s.lookup e.2).isSome
  once : (s.index.map (·.1)).Nodup
  single : (s.index.map (·.2)).Nodup

namespace Linked

variable {s t : MemoryStore α}

theorem empty : Linked (empty : MemoryStore α) where
  keyed := Every.empty
  stored := fun _ he => nomatch he
  once := List.nodup_nil
  single := List.nodup_nil

/-- A second key leads to the record that the index has for it. -/
theorem byIndex_iff (h : s.Linked) {key : String} {k : Key} :
    (∃ a, s.byIndex key = some (k, a)) ↔ (key, k) ∈ s.index := by
  constructor
  · rintro ⟨a, ha⟩
    obtain ⟨before, after, heq, -⟩ := List.lookup_eq_some_iff.mp (byIndex_eq_some.mp ha).1
    rw [heq]
    exact List.mem_append_right before List.mem_cons_self
  · intro hmem
    obtain ⟨a, ha⟩ := Option.isSome_iff_exists.mp (h.stored _ hmem)
    exact ⟨a, byIndex_eq_some.mpr ⟨lookup_of_mem h.once hmem, (h.keyed.lookup ha).2, ha⟩⟩

/-- A second key leads nowhere just when it is not in the index. -/
theorem byIndex_eq_none_iff (h : s.Linked) {key : String} : s.byIndex key = none ↔ ∀ k, (key, k) ∉ s.index := by
  rw [Option.eq_none_iff_forall_ne_some]
  constructor
  · intro habsent k hmem
    obtain ⟨a, ha⟩ := h.byIndex_iff.mpr hmem
    exact habsent _ ha
  · intro habsent e he
    exact habsent e.1 (h.byIndex_iff.mp ⟨e.2, he⟩)

theorem lookup_of_absent (h : s.Linked) {key : String} (habsent : s.byIndex key = none) :
    s.index.lookup key = none := by
  refine List.lookup_eq_none_iff.mpr fun e he => ?_
  have hne : key ≠ e.1 := fun heq => h.byIndex_eq_none_iff.mp habsent e.2 (heq ▸ he)
  simpa using hne

/-- A record may be put in, new or in place of one, as long as the index stays. -/
theorem store (h : s.Linked) {k : Key} {a : α} (hk : keyOf a = .ok k) (hname : isEmptyKey k = false) :
    (s.store k a).Linked where
  keyed := h.keyed.store ⟨hk, hname⟩
  stored := fun e he => by
    by_cases hek : e.2 = k
    · rw [hek, lookup_store_self]
      rfl
    · rw [lookup_store_ne hek]
      exact h.stored e he
  once := h.once
  single := h.single

/-- The second keys of a record go with it. -/
theorem erase (h : s.Linked) (k : Key) : (s.erase k).Linked where
  keyed := h.keyed.erase k
  stored := fun e he => by
    obtain ⟨he, hek⟩ := List.mem_filter.mp he
    rw [lookup_erase_ne (of_decide_eq_true hek)]
    exact h.stored e he
  once := h.once.sublist (List.filter_sublist.map _)
  single := h.single.sublist (List.filter_sublist.map _)

/-- A new second key may be set for a new record. -/
theorem insert (h : s.Linked) {key : String} {k : Key} {a : α} (habsent : s.byIndex key = none) (hk : keyOf a = .ok k)
    (hname : isEmptyKey k = false) (hfree : s.lookup k = none) :
    ({ s.store k a with index := s.index ++ [(key, k)] } : MemoryStore α).Linked := by
  have hstored := h.store hk hname
  refine ⟨hstored.keyed, fun e he => ?_, ?_, ?_⟩
  · rcases List.mem_append.mp he with he | he
    · exact hstored.stored e he
    · obtain rfl := List.mem_singleton.mp he
      exact Option.isSome_iff_exists.mpr ⟨a, lookup_store_self k a⟩
  · rw [List.map_append]
    refine List.Nodup.append h.once (List.nodup_singleton _) (List.disjoint_singleton.mpr fun hmem => ?_)
    obtain ⟨e, he, rfl⟩ := List.mem_map.mp hmem
    exact h.byIndex_eq_none_iff.mp habsent e.2 he
  · rw [List.map_append]
    refine List.Nodup.append h.single (List.nodup_singleton _) (List.disjoint_singleton.mpr fun hmem => ?_)
    obtain ⟨e, he, rfl⟩ := List.mem_map.mp hmem
    have hsome := h.stored e he
    rw [hfree] at hsome
    cases hsome

/-- Calls keep the index and the records together. -/
theorem performed (h : s.Linked) {c : Call α} (hc : c.Careful s) {o : Outcome α} (hp : Performed s c o t) :
    t.Linked := by
  cases hp with
  | put keyed => exact h.store keyed (hc _ keyed)
  | add keyed free => exact h.store keyed (hc _ keyed)
  | delete keyed here => exact h.erase _
  | deleteAbsent => exact h
  | @refresh key a old change k l here keyed =>
    obtain ⟨hk, hname⟩ := h.keyed.lookup (byIndex_eq_some.mp here).2.2
    obtain rfl := Except.ok.inj (keyed.symm.trans ((hc.2 k old here).trans hk))
    exact h.store keyed hname
  | insert absent keyed free =>
    rw [setIndex_of_new (h.lookup_of_absent absent)]
    exact h.insert absent keyed (hc.1 _ keyed) free
  | refused => exact h

end Linked

/-! ## Runs of calls -/

/-- Calls with what they came to, the last one last, that lead from one store to another. -/
inductive Run (s : MemoryStore α) : List (Call α × Outcome α) → MemoryStore α → Prop where
  | start : Run s [] s
  | next {past : List (Call α × Outcome α)} {t : MemoryStore α} {c : Call α} (before : Run s past t)
      (careful : c.Careful t) : Run s (past ++ [(c, (c.perform t).1)]) (c.perform t).2

/-- A record with an id was inserted under a second key. -/
def Inserts (key : String) (k : Key) (e : Call α × Outcome α) : Prop :=
  ∃ a change, keyOf a = .ok k ∧ e = (.getOrAdd key a change, .ok (.found ⟨a, none⟩))

/-- The record with an id was deleted. -/
def Deletes (k : Key) (e : Call α × Outcome α) : Prop :=
  ∃ id : Value, id.asKey = .ok k ∧ e = (.delete id, .ok (.deleted true))

/-- A record with an id was inserted under a second key, and not deleted since. -/
def Inserted (past : List (Call α × Outcome α)) (key : String) (k : Key) : Prop :=
  ∃ before e after, past = before ++ e :: after ∧ Inserts key k e ∧ ∀ d ∈ after, ¬ Deletes k d

section Runs

variable {s t : MemoryStore α} {past : List (Call α × Outcome α)} {key : String} {k : Key}

theorem not_inserted_nil : ¬ Inserted ([] : List (Call α × Outcome α)) key k := by
  rintro ⟨before, e, after, heq, -⟩
  exact List.append_ne_nil_of_right_ne_nil before (List.cons_ne_nil e after) heq.symm

theorem inserted_concat {e : Call α × Outcome α} :
    Inserted (past ++ [e]) key k ↔ Inserts key k e ∨ (Inserted past key k ∧ ¬ Deletes k e) := by
  constructor
  · rintro ⟨before, i, after, heq, hi, hafter⟩
    rcases List.eq_nil_or_concat after with rfl | ⟨rest, d, rfl⟩
    · obtain ⟨-, hei⟩ := List.append_inj' heq rfl
      obtain rfl := List.singleton_inj.mp hei
      exact .inl hi
    · rw [List.concat_eq_append, ← List.cons_append, ← List.append_assoc] at heq
      obtain ⟨rfl, hed⟩ := List.append_inj' heq rfl
      obtain rfl := List.singleton_inj.mp hed
      rw [List.concat_eq_append, List.forall_mem_append] at hafter
      exact .inr ⟨⟨before, i, rest, rfl, hi, hafter.1⟩, hafter.2 e List.mem_cons_self⟩
  · rintro (hi | ⟨⟨before, i, after, rfl, hi, hafter⟩, hd⟩)
    · exact ⟨past, e, [], rfl, hi, fun _ h => nomatch h⟩
    · refine ⟨before, i, after ++ [e], by rw [List.append_assoc, List.cons_append], hi, ?_⟩
      rw [List.forall_mem_append]
      exact ⟨hafter, fun d hmem => List.mem_singleton.mp hmem ▸ hd⟩

/-- What a call does to the index: it sets the second key of a record that it inserts, and takes away those of a
record that it deletes. -/
theorem Performed.mem_index_iff {c : Call α} {o : Outcome α} (hp : Performed s c o t) (h : s.Linked) :
    (key, k) ∈ t.index ↔ Inserts key k (c, o) ∨ ((key, k) ∈ s.index ∧ ¬ Deletes k (c, o)) := by
  cases hp with
  | put keyed => simp [Inserts, Deletes, MemoryStore.store]
  | add keyed free => simp [Inserts, Deletes, MemoryStore.store]
  | @delete id l keyed here =>
    have hinserts : ¬ Inserts key k ((.delete id, .ok (.deleted true)) : Call α × Outcome α) := by simp [Inserts]
    have hdeletes : Deletes k ((.delete id, .ok (.deleted true)) : Call α × Outcome α) ↔ l = k := by
      simp [Deletes, keyed]
    rw [or_iff_right hinserts, hdeletes]
    exact List.mem_filter.trans (and_congr_right fun _ => decide_eq_true_iff.trans ne_comm)
  | deleteAbsent => simp [Inserts, Deletes]
  | refresh here keyed => simp [Inserts, Deletes, MemoryStore.store]
  | @insert new a change l absent keyed free =>
    have hinserts : Inserts key k ((.getOrAdd new a change, .ok (.found ⟨a, none⟩)) : Call α × Outcome α) ↔
        key = new ∧ k = l := by
      constructor
      · rintro ⟨b, change', hk, heq⟩
        cases heq
        exact ⟨rfl, Except.ok.inj (hk.symm.trans keyed)⟩
      · rintro ⟨rfl, rfl⟩
        exact ⟨a, change, keyed, rfl⟩
    have hdeletes : ¬ Deletes k ((.getOrAdd new a change, .ok (.found ⟨a, none⟩)) : Call α × Outcome α) := by
      simp [Deletes]
    rw [hinserts, setIndex_of_new (h.lookup_of_absent absent), List.mem_append, List.mem_singleton, Prod.mk.injEq,
      or_comm, and_iff_left hdeletes]
  | refused => simp [Inserts, Deletes]

namespace Run

/-- Runs keep the index and the records together. -/
theorem linked (h : Run s past t) (hs : s.Linked) : t.Linked := by
  induction h with
  | start => exact hs
  | @next past u c before careful ih => exact ih.performed careful (performed c u)

/-- The index after a run: what the calls inserted and did not delete since, and what it had and they did not
delete. -/
theorem mem_index_iff (h : Run s past t) (hs : s.Linked) :
    (key, k) ∈ t.index ↔ Inserted past key k ∨ ((key, k) ∈ s.index ∧ ∀ d ∈ past, ¬ Deletes k d) := by
  induction h with
  | start => simp [not_inserted_nil]
  | @next past u c before careful ih =>
    rw [(performed c u).mem_index_iff (before.linked hs), ih, inserted_concat, List.forall_mem_append,
      List.forall_mem_singleton]
    tauto

/-- From an empty store on, the index has the keys of the records that were inserted and not deleted since. -/
theorem mem_index_iff_inserted (h : Run empty past t) : (key, k) ∈ t.index ↔ Inserted past key k := by
  rw [h.mem_index_iff Linked.empty]
  exact or_iff_left fun hmem => nomatch hmem.1

end Run

end Runs

/-! ## What second keys say -/

/-- What the second keys of a store say after some calls. -/
structure SecondKeys (past : List (Call α × Outcome α)) (s : MemoryStore α) : Prop where
  /-- Each second key names a record on store. -/
  stored : ∀ e ∈ s.index, (s.lookup e.2).isSome
  /-- A second key names one record. -/
  once : (s.index.map (·.1)).Nodup
  /-- No two of them name the same record. -/
  single : (s.index.map (·.2)).Nodup
  /-- A second key names the record that was inserted under it, until that is deleted. -/
  inserted : ∀ {key k}, (key, k) ∈ s.index ↔ Inserted past key k
  /-- Where there is such a record, finding or adding changes it and no other, and adds none. -/
  found : ∀ {key a change k}, Inserted past key k → (∀ old, s.lookup k = some old → keyOf (change old) = keyOf old) →
    ∃ old t, s.lookup k = some old ∧
      (Call.getOrAdd key a change).perform s = (.ok (.found ⟨change old, some old⟩), t) ∧
      t.lookup k = some (change old) ∧ (∀ l, l ≠ k → t.lookup l = s.lookup l) ∧ t.index = s.index
  /-- Where there is none, finding or adding adds the record with its second key, as long as the id is free. -/
  added : ∀ {key a change k}, (∀ l, ¬ Inserted past key l) → keyOf a = .ok k → s.lookup k = none →
    (Call.getOrAdd key a change).perform s =
      (.ok (.found ⟨a, none⟩), ⟨s.records ++ [(k, a)], s.index ++ [(key, k)]⟩)
  /-- So it reports a record as created just when there was none. -/
  created : ∀ {key a change r}, ((Call.getOrAdd key a change).perform s).1 = .ok (.found r) →
    (r.previous = none ↔ ∀ k, ¬ Inserted past key k)
  /-- No id that is in use is added, under a second key or not. -/
  taken : ∀ {a k}, keyOf a = .ok k → (s.lookup k).isSome →
    (Call.add a).perform s = (.error (.naming .duplicate (Stored.ident a)), s) ∧
      ∀ {key change}, (∀ l, ¬ Inserted past key l) →
        (Call.getOrAdd key a change).perform s = (.error (.naming .duplicate (Stored.ident a)), s)
  /-- A call that is refused, for whatever fault, changes nothing. -/
  refused : ∀ {c : Call α} {f}, (c.perform s).1 = .error f → (c.perform s).2 = s
  /-- The second keys of a record that is deleted lead nowhere afterwards, whatever is put in or changed, until a
  record is inserted under them. -/
  freed : ∀ {id : Value} {key k a}, id.asKey = .ok k → s.byIndex key = some (k, a) →
    ((Call.delete id).perform s).1 = .ok (.deleted true) ∧
      ∀ {later t}, Run ((Call.delete id).perform s).2 later t → (∀ e ∈ later, ∀ l, ¬ Inserts key l e) →
        t.byIndex key = none

section Kept

variable {past later : List (Call α × Outcome α)} {s t : MemoryStore α} {key : String} {k : Key}

theorem Run.byIndex_eq_none_iff (h : Run empty past s) : s.byIndex key = none ↔ ∀ k, ¬ Inserted past key k :=
  (h.linked Linked.empty).byIndex_eq_none_iff.trans (forall_congr' fun _ => not_congr h.mem_index_iff_inserted)

/-- A run that inserts nothing under a second key that leads nowhere leaves it so. -/
theorem Run.byIndex_eq_none (h : Run s later t) (hs : s.Linked) (habsent : s.byIndex key = none)
    (hlater : ∀ e ∈ later, ∀ l, ¬ Inserts key l e) : t.byIndex key = none := by
  refine (h.linked hs).byIndex_eq_none_iff.mpr fun k hmem => ?_
  rcases (h.mem_index_iff hs).mp hmem with ⟨before, e, after, rfl, he, -⟩ | ⟨hmem, -⟩
  · exact hlater e (List.mem_append_right before List.mem_cons_self) k he
  · exact hs.byIndex_eq_none_iff.mp habsent k hmem

/-- The second keys of a record that is erased lead nowhere. -/
theorem Linked.byIndex_erase (h : s.Linked) {a : α} (ha : s.byIndex key = some (k, a)) :
    (s.erase k).byIndex key = none := by
  refine (h.erase k).byIndex_eq_none_iff.mpr fun l hmem => ?_
  obtain ⟨hmem, hne⟩ := List.mem_filter.mp hmem
  have hkl : some l = some k := (lookup_of_mem h.once hmem).symm.trans (byIndex_eq_some.mp ha).1
  exact of_decide_eq_true hne (Option.some.inj hkl)

/-- The second keys of a store, after any calls on it since it was empty. -/
theorem Run.secondKeys (h : Run empty past s) : SecondKeys past s := by
  have hlinked := h.linked Linked.empty
  refine ⟨hlinked.stored, hlinked.once, hlinked.single, h.mem_index_iff_inserted, ?found, ?added, ?created, ?taken,
    ?refused, ?freed⟩
  case found =>
    intro key a change k hinserted hkeeps
    obtain ⟨old, hold⟩ := hlinked.byIndex_iff.mpr (h.mem_index_iff_inserted.mpr hinserted)
    have hlookup := (byIndex_eq_some.mp hold).2.2
    have hkeyed : keyOf (change old) = .ok k := (hkeeps old hlookup).trans (hlinked.keyed.lookup hlookup).1
    exact ⟨old, s.store k (change old), hlookup, perform_getOrAdd_of_some hold hkeyed, lookup_store_self k _,
      fun l hl => lookup_store_ne hl _, rfl⟩
  case added =>
    intro key a change k hnone hk hfree
    have habsent := h.byIndex_eq_none_iff.mpr hnone
    rw [perform_getOrAdd_of_none habsent hk hfree, setIndex_of_new (hlinked.lookup_of_absent habsent),
      MemoryStore.store, replace_of_new hfree]
  case created =>
    intro key a change r hr
    rw [← h.byIndex_eq_none_iff]
    have hp := performed (Call.getOrAdd key a change) s
    rw [hr] at hp
    generalize ((Call.getOrAdd key a change).perform s).2 = t at hp
    cases hp with
    | refresh here keyed => simp [here]
    | insert absent keyed free => simp [absent]
  case taken =>
    intro a k hk hhere
    exact ⟨perform_add_taken hk hhere, fun hnone => perform_getOrAdd_taken (h.byIndex_eq_none_iff.mpr hnone) hk hhere⟩
  case refused =>
    intro c f hf
    rw [c.perform_eq] at hf ⊢
    cases hanswer : c.answer s with
    | error f => rfl
    | ok r =>
      rw [hanswer] at hf
      cases hf
  case freed =>
    intro id key k a hk ha
    rw [perform_delete hk (Option.isSome_iff_exists.mpr ⟨a, (byIndex_eq_some.mp ha).2.2⟩)]
    exact ⟨rfl, fun hlater hnone => hlater.byIndex_eq_none (hlinked.erase k) (hlinked.byIndex_erase ha) hnone⟩

end Kept

/-- A strategy is found under its second key until it is deleted, and not again when it is put back. -/
theorem secondKeys_sample :
    let a : UpdateStrategy := ⟨"t1", "BALANCED", []⟩
    ∃ past s, Run empty (past ++ [(.delete (.str "t1"), .ok (.deleted true)), (.put a, .ok .done)]) s ∧
      Inserted past "key" (.str "t1") ∧ s.lookup (.str "t1") = some a ∧ s.byIndex "key" = none ∧
      SecondKeys (past ++ [(.delete (.str "t1"), .ok (.deleted true)), (.put a, .ok .done)]) s := by
  intro a
  have hnamed : Named a := by
    intro k hk
    obtain rfl : Key.str "t1" = k := Except.ok.inj hk
    rfl
  have hinserted : Call.Careful empty (.getOrAdd "key" a id) := ⟨hnamed, fun _ _ h => nomatch h⟩
  have hrun := ((Run.start.next hinserted).next (c := .delete (.str "t1")) trivial).next (c := .put a) hnamed
  exact ⟨_, _, hrun, ⟨[], _, [], rfl, ⟨a, id, rfl, rfl⟩, fun _ h => nomatch h⟩, rfl, rfl, hrun.secondKeys⟩

end SupplyGate.MemoryStore
