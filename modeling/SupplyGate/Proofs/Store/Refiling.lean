import SupplyGate.Event.Basic
import SupplyGate.Proofs.Store.Filed

/-!
# Filing findings, and filing them again

The findings of an evaluation are filed one after the other: each refreshes the violation on record
that its text leads to, or is added. What a finding writes over a violation does not depend on what
earlier findings wrote (`seenAgain_seenAgain`), so of several findings with one text the last decides,
and findings with different texts do not meet. Hence findings that were filed once can be filed again
without a change (`Filing.again`), although the store goes through other states on the way. And what a
finding gave can be read off any later store (`Filing.recorded`).

A violation on record is the one that its text leads to (`Traceable`), so a finding touches it just when
it has its text. The violation ends as the last finding with its text alone would leave it, and stays as it
is if there is none (`Filing.lookup`).

A finding that is filed again is written over the violation on record: its message, its details, its
context and when it was last seen. Everything else stays as the first finding with its text gave it, the
`stamp` of the violation. So what an evaluation reports of a finding is stamped by its `origin`: the
violation that its text led to before, or else the first of the findings of the evaluation with its
text (`Filing.stamp_recorded`).
-/

namespace SupplyGate

/-- A finding as a rule gives it: with a text that can be written, open, without a resolution, and last seen when it
was detected. -/
structure Violation.New (now : Timestamp) (v : Violation) : Prop where
  written : ∀ part ∈ v.keyParts, part.isWritable = true
  status : v.status = .open
  unresolved : v.resolution = .null ∧ v.resolvedBy = .null ∧ v.resolvedAt = none
  lastSeen : v.lastSeen = now

namespace Finding

variable {now : Timestamp}

/-- What a finding writes over a violation hides what an earlier one wrote. -/
theorem seenAgain_seenAgain (found earlier stored : Violation) :
    seenAgain now found (seenAgain now earlier stored) = seenAgain now found stored := by
  by_cases h : stored.status = .resolved
  · simp [seenAgain, h]
  · simp [seenAgain, h]

/-- A finding changes nothing of the violation that was added for it. -/
theorem seenAgain_new {v : Violation} (h : v.New now) (id : Value) :
    seenAgain now v { v with id } = { v with id } := by
  obtain ⟨-, hs, -, hl⟩ := h
  unfold seenAgain
  simp only [hs, reduceCtorEq, if_false]
  rw [← hl]

end Finding

/-- The event that tells that a violation on record was opened again. -/
def Found.reopening (found : Found Violation) : List Event :=
  match found.previous with
  | some old =>
    if old.status = .resolved then
      [.statusChanged found.record.tenantId found.record.id .resolved .open "system"]
    else []
  | none => []

namespace MemoryStore

variable {now : Timestamp} {m t u : MemoryStore Violation} {v w : Violation}

/-! ## Refreshing -/

/-- The store after a finding refreshed the violation that its text leads to. -/
def refresh (now : Timestamp) (m : MemoryStore Violation) (v : Violation) : MemoryStore Violation :=
  match m.byIndex v.key with
  | some (k, old) => m.store k (Finding.seenAgain now v old)
  | none => m

theorem refresh_of_some {k : Key} (h : m.byIndex v.key = some (k, w)) :
    refresh now m v = m.store k (Finding.seenAgain now v w) := by
  rw [refresh, h]

theorem refresh_of_none (h : m.byIndex v.key = none) : refresh now m v = m := by rw [refresh, h]

theorem Filed.key_of_byIndex (h : m.Filed) {key : String} {k : Key} (hk : m.byIndex key = some (k, w)) :
    w.key = key := by
  obtain ⟨hindex, -, hlookup⟩ := byIndex_eq_some.mp hk
  obtain ⟨w', hw', hkey⟩ := h.indexed _ _ hindex
  obtain rfl : w = w' := Option.some.inj (hlookup.symm.trans hw')
  exact hkey

/-- Different texts lead to different violations. -/
theorem Filed.byIndex_ne (h : m.Filed) {key other : String} {k l : Key} {a b : Violation}
    (hk : m.byIndex key = some (k, a)) (hl : m.byIndex other = some (l, b)) (hne : other ≠ key) : l ≠ k := by
  rintro rfl
  obtain rfl : a = b := by
    have ha := (byIndex_eq_some.mp hk).2.2
    have hb := (byIndex_eq_some.mp hl).2.2
    exact Option.some.inj (ha.symm.trans hb)
  exact hne ((h.key_of_byIndex hl).symm.trans (h.key_of_byIndex hk))

theorem filed_refresh (h : m.Filed) (v : Violation) : (refresh now m v).Filed := by
  cases hb : m.byIndex v.key with
  | none => rwa [refresh_of_none hb]
  | some e =>
    obtain ⟨k, old⟩ := e
    rw [refresh_of_some hb]
    exact h.replaced (byIndex_eq_some.mp hb).2.2 (Finding.id_seenAgain now v old)
      (Finding.key_seenAgain now v old)

theorem byIndex_store_self {key : String} {k : Key} (h : m.byIndex key = some (k, w)) (a : Violation) :
    (m.store k a).byIndex key = some (k, a) := by
  obtain ⟨hindex, hempty, -⟩ := byIndex_eq_some.mp h
  exact byIndex_eq_some.mpr ⟨hindex, hempty, lookup_store_self k a⟩

theorem byIndex_store_ne {key : String} {k : Key} (hw : m.lookup k = some w)
    (hne : m.byIndex key ≠ some (k, w)) (a : Violation) : (m.store k a).byIndex key = m.byIndex key := by
  refine Option.ext fun e => ?_
  obtain ⟨l, c⟩ := e
  rw [byIndex_eq_some, byIndex_eq_some]
  refine and_congr_right fun hindex => and_congr_right fun hempty => ?_
  have hlk : l ≠ k := by
    rintro rfl
    exact hne (byIndex_eq_some.mpr ⟨hindex, hempty, hw⟩)
  rw [lookup_store_ne hlk]

theorem byIndex_refresh_self {k : Key} (h : m.byIndex v.key = some (k, w)) :
    (refresh now m v).byIndex v.key = some (k, Finding.seenAgain now v w) := by
  rw [refresh_of_some h]
  exact byIndex_store_self h _

/-- Refreshing one violation leaves alone what another text leads to. -/
theorem Filed.byIndex_refresh_ne (h : m.Filed) {key : String} (hne : key ≠ v.key) :
    (refresh now m v).byIndex key = m.byIndex key := by
  cases hb : m.byIndex v.key with
  | none => rw [refresh_of_none hb]
  | some e =>
    obtain ⟨k, old⟩ := e
    rw [refresh_of_some hb]
    refine byIndex_store_ne (byIndex_eq_some.mp hb).2.2 (fun hk => ?_) _
    exact h.byIndex_ne hb hk hne rfl

/-- Of two findings with one text the later decides. -/
theorem refresh_absorb (h : v.key = w.key) : refresh now (refresh now m w) v = refresh now m v := by
  cases hb : m.byIndex w.key with
  | none => rw [refresh_of_none hb]
  | some e =>
    obtain ⟨k, old⟩ := e
    have hv : (refresh now m w).byIndex v.key = some (k, Finding.seenAgain now w old) := by
      rw [h]
      exact byIndex_refresh_self hb
    rw [refresh_of_some hv, refresh_of_some hb, store_store, Finding.seenAgain_seenAgain,
      refresh_of_some (h ▸ hb)]

/-- Findings with different texts can be filed in either order. -/
theorem Filed.refresh_comm (h : m.Filed) (hne : v.key ≠ w.key) :
    refresh now (refresh now m w) v =
      refresh now (refresh now m v) w := by
  have hv : (refresh now m w).byIndex v.key = m.byIndex v.key := h.byIndex_refresh_ne hne
  have hw : (refresh now m v).byIndex w.key = m.byIndex w.key := h.byIndex_refresh_ne (Ne.symm hne)
  cases hbv : m.byIndex v.key with
  | none => rw [refresh_of_none (hv.trans hbv), refresh_of_none hbv]
  | some e =>
    obtain ⟨k, a⟩ := e
    cases hbw : m.byIndex w.key with
    | none => rw [refresh_of_none (hw.trans hbw), refresh_of_none hbw]
    | some e' =>
      obtain ⟨l, b⟩ := e'
      have hkl : k ≠ l := h.byIndex_ne hbw hbv hne
      rw [refresh_of_some (hv.trans hbv), refresh_of_some (hw.trans hbw), refresh_of_some hbv,
        refresh_of_some hbw]
      exact store_comm hkl _ _ (byIndex_eq_some.mp hbv).2.2

/-! ## Filing one finding -/

/-- A later store: each text leads where it led, to a violation that differs only by what a finding
writes over it. -/
def Follows (now : Timestamp) (m t : MemoryStore Violation) : Prop :=
  ∀ key k w, m.byIndex key = some (k, w) → ∃ w', t.byIndex key = some (k, w') ∧
    ∀ v, Finding.seenAgain now v w' = Finding.seenAgain now v w

theorem Follows.refl (m : MemoryStore Violation) : Follows now m m :=
  fun _ _ w h => ⟨w, h, fun _ => rfl⟩

theorem Follows.trans (h : Follows now m t) (h' : Follows now t u) : Follows now m u := by
  intro key k w hw
  obtain ⟨w', hw', he⟩ := h key k w hw
  obtain ⟨w'', hw'', he'⟩ := h' key k w' hw'
  exact ⟨w'', hw'', fun v => (he' v).trans (he v)⟩

/-- What filing a finding comes to: its text leads to its record, which it would not change again, and
other texts lead where they led. -/
structure Files (now : Timestamp) (m : MemoryStore Violation) (v record : Violation)
    (t : MemoryStore Violation) : Prop where
  filed : t.Filed
  here : ∃ k, t.byIndex v.key = some (k, record)
  settled : Finding.seenAgain now v record = record
  follows : Follows now m t
  frame : ∀ key, key ≠ v.key → t.byIndex key = m.byIndex key

/-- Where the text of a finding leads to a violation, storing the finding refreshes it. -/
theorem Filed.getOrAdd_refresh (h : m.Filed) {k : Key} (hw : m.byIndex v.key = some (k, w)) {id : Value}
    {found : Found Violation}
    (hg : m.getOrAdd v.key { v with id } (Finding.seenAgain now v) = .ok (found, t)) :
    t = refresh now m v ∧ found.record = Finding.seenAgain now v w := by
  have hid : keyOf (Finding.seenAgain now v w) = .ok k :=
    (congrArg Value.asKey (Finding.id_seenAgain now v w)).trans (h.keyed.lookup (byIndex_eq_some.mp hw).2.2)
  rw [getOrAdd_of_some hw hid] at hg
  cases hg
  exact ⟨(refresh_of_some hw).symm, rfl⟩

theorem files_refresh (h : m.Filed) {k : Key} (hw : m.byIndex v.key = some (k, w)) :
    Files now m v (Finding.seenAgain now v w) (refresh now m v) where
  filed := filed_refresh h v
  here := ⟨k, byIndex_refresh_self hw⟩
  settled := Finding.seenAgain_seenAgain v v w
  follows key l a ha := by
    by_cases hkey : key = v.key
    · subst hkey
      obtain ⟨rfl, rfl⟩ : k = l ∧ w = a := by simpa [hw] using ha
      exact ⟨_, byIndex_refresh_self hw, fun u => Finding.seenAgain_seenAgain u v w⟩
    · exact ⟨a, (h.byIndex_refresh_ne hkey).trans ha, fun _ => rfl⟩
  frame _ hkey := h.byIndex_refresh_ne hkey

/-- A violation that is added is found by its text, and no other one by another text. -/
theorem Filed.byIndex_added (h : m.Filed) {found : Found Violation} {k : Key}
    (ha : Added m v.key w found t k) (hempty : isEmptyKey k = false) :
    t.byIndex v.key = some (k, w) ∧ ∀ key, key ≠ v.key → t.byIndex key = m.byIndex key := by
  rw [ha.store_eq]
  refine ⟨byIndex_eq_some.mpr ⟨lookup_setIndex_self .., hempty, lookup_store_self k w⟩, fun key hkey => ?_⟩
  refine Option.ext fun e => ?_
  obtain ⟨l, a⟩ := e
  rw [byIndex_eq_some, byIndex_eq_some]
  change (setIndex v.key k m.index).lookup key = some l ∧ _ ∧ (m.store k w).lookup l = some a ↔ _
  rw [lookup_setIndex_ne hkey]
  refine and_congr_right fun hindex => and_congr_right fun _ => ?_
  have hlk : l ≠ k := by
    rintro rfl
    obtain ⟨b, hb, -⟩ := h.indexed key l hindex
    rw [ha.free] at hb
    cases hb
  rw [lookup_store_ne hlk]

theorem files_added (h : m.Filed) (new : v.New now) {text : String} (named : text ≠ "")
    {found : Found Violation}
    (hg : m.getOrAdd v.key { v with id := .str text } (Finding.seenAgain now v) = .ok (found, t))
    (hnone : m.byIndex v.key = none) : Files now m v found.record t := by
  have hkey : keyOf { v with id := .str text } = .ok (.str text) := rfl
  rcases getOrAdd_ok hg with ⟨k, old, hr⟩ | ⟨k, ha⟩
  · rw [hr.here] at hnone
    cases hnone
  · obtain rfl : k = .str text := Except.ok.inj (ha.keyed.symm.trans hkey)
    have hempty : isEmptyKey (.str text) = false := by simpa [isEmptyKey] using named
    obtain ⟨hhere, hframe⟩ := h.byIndex_added ha hempty
    rw [ha.found_eq]
    have hstored : ∀ w : Violation, m.getOrAdd w.key w (Finding.seenAgain now w) = .ok (found, t) → t.Filed :=
      fun _ => h.getOrAdd
    refine ⟨hstored { v with id := .str text } hg, ⟨_, hhere⟩, Finding.seenAgain_new new _,
      fun key l a hl => ?_, hframe⟩
    have hne : key ≠ v.key := by
      rintro rfl
      rw [hnone] at hl
      cases hl
    exact ⟨a, (hframe key hne).trans hl, fun _ => rfl⟩

/-- Storing a finding under an id files it. -/
theorem Filed.files (h : m.Filed) (new : v.New now) {text : String} (named : text ≠ "")
    {found : Found Violation}
    (hg : m.getOrAdd v.key { v with id := .str text } (Finding.seenAgain now v) = .ok (found, t)) :
    Files now m v found.record t := by
  cases hb : m.byIndex v.key with
  | none => exact files_added h new named hg hb
  | some e =>
    obtain ⟨k, w⟩ := e
    obtain ⟨rfl, hrecord⟩ := h.getOrAdd_refresh hb hg
    rw [hrecord]
    exact files_refresh h hb

/-! ## Filing findings -/

/-- Findings are filed one after the other, each stored under an id of its own; the events tell which
of the violations on record were opened again. -/
inductive Filing (now : Timestamp) :
    MemoryStore Violation → List Violation → MemoryStore Violation → List Event → Prop where
  | nil (m : MemoryStore Violation) : Filing now m [] m []
  | cons {m t u : MemoryStore Violation} {v : Violation} {vs : List Violation} {text : String}
      {found : Found Violation} {events : List Event} (new : v.New now) (named : text ≠ "")
      (stored : m.getOrAdd v.key { v with id := .str text } (Finding.seenAgain now v) = .ok (found, t))
      (rest : Filing now t vs u events) : Filing now m (v :: vs) u (found.reopening ++ events)

/-- The record of a finding, read off a later store. -/
def recorded (now : Timestamp) (m : MemoryStore Violation) (v : Violation) : Violation :=
  match m.byIndex v.key with
  | some (_, w) => Finding.seenAgain now v w
  | none => v

theorem Files.recorded_eq {record : Violation} (h : Files now m v record t) (hu : Follows now t u) :
    recorded now u v = record := by
  obtain ⟨k, hk⟩ := h.here
  obtain ⟨w, hw, he⟩ := hu _ _ _ hk
  rw [recorded, hw]
  exact (he v).trans h.settled

namespace Filing

variable {vs ws : List Violation} {events more : List Event}

theorem append (h : Filing now m vs t events) (h' : Filing now t ws u more) :
    Filing now m (vs ++ ws) u (events ++ more) := by
  induction h with
  | nil m => exact h'
  | cons new named stored rest ih =>
    rw [List.append_assoc]
    exact .cons new named stored (ih h')

/-- Filing tells only of violations that were resolved and are open again. -/
theorem reopened (h : Filing now m vs t events) :
    ∀ e ∈ events, ∃ tenantId id, e = .statusChanged tenantId id .resolved .open "system" := by
  induction h with
  | nil m => simp
  | @cons m t u v vs text found events new named stored rest ih =>
    intro e he
    rcases List.mem_append.mp he with he | he
    · unfold Found.reopening at he
      split at he
      · split at he
        · exact ⟨_, _, List.mem_singleton.mp he⟩
        · cases he
      · cases he
    · exact ih e he

theorem filed (h : Filing now m vs t events) (hm : m.Filed) : t.Filed := by
  induction h with
  | nil m => exact hm
  | cons new named stored rest ih => exact ih (hm.files new named stored).filed

theorem follows (h : Filing now m vs t events) (hm : m.Filed) : Follows now m t := by
  induction h with
  | nil m => exact .refl m
  | cons new named stored rest ih =>
    have hv := hm.files new named stored
    exact hv.follows.trans (ih hv.filed)

theorem frame (h : Filing now m vs t events) (hm : m.Filed) {key : String}
    (hkey : ∀ v ∈ vs, key ≠ v.key) : t.byIndex key = m.byIndex key := by
  induction h with
  | nil m => rfl
  | cons new named stored rest ih =>
    have hv := hm.files new named stored
    obtain ⟨hne, hrest⟩ := List.forall_mem_cons.mp hkey
    exact (ih hv.filed hrest).trans (hv.frame key hne)

/-- The texts of the findings lead to violations afterwards. -/
theorem found (h : Filing now m vs t events) (hm : m.Filed) : ∀ v ∈ vs, (t.byIndex v.key).isSome := by
  induction h with
  | nil m => simp
  | cons new named stored rest ih =>
    have hv := hm.files new named stored
    refine List.forall_mem_cons.mpr ⟨?_, ih hv.filed⟩
    obtain ⟨k, hk⟩ := hv.here
    obtain ⟨w, hw, -⟩ := rest.follows hv.filed _ _ _ hk
    rw [hw]
    rfl

end Filing

/-! ## Filing the same findings again -/

section Again

variable {vs : List Violation}

/-- A finding does not count where a later one has its text. -/
theorem Filed.foldl_refresh_absorb (h : m.Filed) (hmem : ∃ w ∈ vs, w.key = v.key) :
    vs.foldl (refresh now) (refresh now m v) = vs.foldl (refresh now) m := by
  induction vs generalizing m with
  | nil => simp at hmem
  | cons w vs ih =>
    rw [List.foldl_cons, List.foldl_cons]
    by_cases hw : w.key = v.key
    · rw [refresh_absorb hw]
    · rw [h.refresh_comm hw]
      refine ih (filed_refresh h w) ?_
      obtain ⟨w', hmem', hw'⟩ := hmem
      rcases List.mem_cons.mp hmem' with rfl | hmem'
      · exact absurd hw' hw
      · exact ⟨w', hmem', hw'⟩

/-- Where all findings lead to violations on record, filing them only refreshes. -/
theorem Filing.eq_foldl {events : List Event} (h : Filing now m vs t events) (hm : m.Filed)
    (hfound : ∀ v ∈ vs, (m.byIndex v.key).isSome) : t = vs.foldl (refresh now) m := by
  induction h with
  | nil m => rfl
  | cons new named stored rest ih =>
    have hv := hm.files new named stored
    obtain ⟨hhere, hrest⟩ := List.forall_mem_cons.mp hfound
    obtain ⟨⟨k, w⟩, hw⟩ := Option.isSome_iff_exists.mp hhere
    obtain ⟨rfl, -⟩ := hm.getOrAdd_refresh hw stored
    refine ih hv.filed fun x hx => ?_
    obtain ⟨⟨l, a⟩, ha⟩ := Option.isSome_iff_exists.mp (hrest x hx)
    obtain ⟨b, hb, -⟩ := hv.follows _ _ _ ha
    rw [hb]
    rfl

/-- Refreshing by findings that were filed leads back to the store that they left. Of a finding with a
text that comes again, the later one decides; any other has left its record as it would write it. -/
theorem Filing.foldl_refresh {events : List Event} (h : Filing now m vs t events) (hm : m.Filed) :
    vs.foldl (refresh now) t = t := by
  induction h with
  | nil m => rfl
  | @cons m t u v vs text found events new named stored rest ih =>
    have hv := hm.files new named stored
    have hu := ih hv.filed
    rw [List.foldl_cons]
    by_cases hmem : ∃ w ∈ vs, w.key = v.key
    · rw [(rest.filed hv.filed).foldl_refresh_absorb hmem, hu]
    · have hframe : u.byIndex v.key = t.byIndex v.key :=
        rest.frame hv.filed fun w hw he => hmem ⟨w, hw, he.symm⟩
      obtain ⟨k, hk⟩ := hv.here
      have hk' := hframe.trans hk
      rw [refresh_of_some hk', hv.settled, store_of_lookup (byIndex_eq_some.mp hk').2.2, hu]

/-- **Filing again.** Findings that were filed are filed again without a change. -/
theorem Filing.again {events more : List Event} (h : Filing now m vs t events) (hm : m.Filed)
    (h' : Filing now t vs u more) : u = t := by
  rw [h'.eq_foldl (h.filed hm) (h.found hm), h.foldl_refresh hm]

end Again

end MemoryStore

/-! ## Violations that are detected again -/

/-- The last of the findings with a text. -/
def Finding.lastWith (key : String) (found : List Violation) : Option Violation :=
  found.reverse.find? (·.key = key)

/-- A violation after findings were filed: as the last one with its text leaves it. -/
def Finding.seenLast (now : Timestamp) (found : List Violation) (v : Violation) : Violation :=
  match lastWith v.key found with
  | some f => seenAgain now f v
  | none => v

namespace Finding

variable {now : Timestamp} {key : String} {f v : Violation} {found : List Violation}

theorem lastWith_cons (key : String) (f : Violation) (found : List Violation) :
    lastWith key (f :: found) = (lastWith key found).or (if f.key = key then some f else none) := by
  unfold lastWith
  rw [List.reverse_cons, List.find?_append, List.find?_singleton]
  simp

theorem lastWith_eq_none : lastWith key found = none ↔ ∀ f ∈ found, f.key ≠ key := by
  simp [lastWith]

theorem seenLast_of_some (h : lastWith v.key found = some f) : seenLast now found v = seenAgain now f v := by
  rw [seenLast, h]

theorem seenLast_of_none (h : lastWith v.key found = none) : seenLast now found v = v := by rw [seenLast, h]

/-- A finding with the text of a violation refreshes it first, and a later one hides what it wrote. -/
theorem seenLast_cons_self (h : f.key = v.key) (found : List Violation) :
    seenLast now (f :: found) v = seenLast now found (seenAgain now f v) := by
  have hkey : (seenAgain now f v).key = v.key := key_seenAgain now f v
  unfold seenLast
  rw [lastWith_cons, if_pos h, hkey]
  cases lastWith v.key found with
  | none => rfl
  | some g => exact (seenAgain_seenAgain g f v).symm

theorem seenLast_cons_ne (h : f.key ≠ v.key) (found : List Violation) :
    seenLast now (f :: found) v = seenLast now found v := by
  unfold seenLast
  rw [lastWith_cons, if_neg h, Option.or_none]

end Finding

namespace MemoryStore

open Finding (lastWith seenLast seenLast_cons_self seenLast_cons_ne)

variable {now : Timestamp} {m t : MemoryStore Violation} {k : Key} {v w : Violation} {vs : List Violation}
  {events : List Event}

/-- The text of each violation on record leads to it. -/
def Traceable (m : MemoryStore Violation) : Prop := ∀ k v, m.lookup k = some v → m.byIndex v.key = some (k, v)

theorem Traceable.empty : Traceable (empty : MemoryStore Violation) := fun _ _ h => by cases h

/-- A violation may be replaced by one with its text. -/
theorem Traceable.store (h : m.Traceable) (hv : m.lookup k = some v) (hkey : w.key = v.key) :
    (m.store k w).Traceable := by
  intro l u hu
  by_cases hl : l = k
  · subst hl
    obtain rfl : w = u := Option.some.inj ((lookup_store_self l w).symm.trans hu)
    rw [hkey]
    exact byIndex_store_self (h l v hv) w
  · rw [lookup_store_ne hl] at hu
    have hlu := h l u hu
    rw [byIndex_store_ne hv ?_ w, hlu]
    rw [hlu]
    simp [hl]

/-- Filing a finding keeps the violations traceable: one that is added can be found by its text, and has
its text for itself. -/
theorem Traceable.stored (h : m.Traceable) (hm : m.Filed) {text : String} (named : text ≠ "")
    {found : Found Violation}
    (hg : m.getOrAdd v.key { v with id := .str text } (Finding.seenAgain now v) = .ok (found, t)) :
    t.Traceable := by
  rcases getOrAdd_ok hg with ⟨k, old, hr⟩ | ⟨k, ha⟩
  · obtain ⟨hold, -, rfl⟩ := hm.refreshed hr
    exact h.store hold (Finding.key_seenAgain now v old)
  · obtain rfl : k = .str text := (Except.ok.inj ha.keyed).symm
    have hempty : isEmptyKey (.str text) = false := by simpa [isEmptyKey] using named
    obtain ⟨hhere, hframe⟩ := hm.byIndex_added ha hempty
    intro l u hu
    by_cases hl : l = .str text
    · subst hl
      rw [ha.store_eq] at hu
      obtain rfl := Option.some.inj ((lookup_store_self (.str text) _).symm.trans hu)
      exact hhere
    · rw [ha.store_eq] at hu
      have hlu := h l u ((lookup_store_ne hl _).symm.trans hu)
      have hne : u.key ≠ v.key := by
        intro he
        rw [he, ha.absent] at hlu
        cases hlu
      exact (hframe u.key hne).trans hlu

/-- **Filing decides by the last finding with a text.** Wherever a text led before, it leads to the same
place afterwards, and to the violation that the last finding with it leaves. -/
theorem Filing.byIndex (h : Filing now m vs t events) (hm : m.Filed) (hv : m.byIndex v.key = some (k, v)) :
    t.byIndex v.key = some (k, seenLast now vs v) := by
  -- The violation changes along the way: each finding with its text hands a refreshed one on to the rest.
  induction h generalizing v with
  | nil m => exact hv
  | @cons m t u f vs text found events new named stored rest ih =>
    have hf := hm.files new named stored
    by_cases hkey : f.key = v.key
    · rw [← hkey] at hv
      obtain ⟨rfl, -⟩ := hm.getOrAdd_refresh hv stored
      have hseen : (refresh now m f).byIndex (Finding.seenAgain now f v).key =
          some (k, Finding.seenAgain now f v) := by
        rw [Finding.key_seenAgain, ← hkey]
        exact byIndex_refresh_self hv
      rw [seenLast_cons_self hkey, ← Finding.key_seenAgain now f v]
      exact ih hf.filed hseen
    · rw [seenLast_cons_ne hkey]
      exact ih hf.filed ((hf.frame v.key (Ne.symm hkey)).trans hv)

/-- A violation on record is afterwards what the last finding with its text leaves. -/
theorem Filing.lookup (h : Filing now m vs t events) (hm : m.Filed) (traceable : m.Traceable)
    (hv : m.lookup k = some v) : t.lookup k = some (seenLast now vs v) :=
  (byIndex_eq_some.mp (h.byIndex hm (traceable k v hv))).2.2

end MemoryStore

/-! ## Where violations come from -/

/-- What a violation says of the finding that it was added for. -/
structure Violation.Stamp where
  tenantId : Value
  policyId : Value
  ruleId : Value
  dependency : Dependency
  type : Value
  severity : Loose Severity
  tags : List Value
  firstDetected : Timestamp

def Violation.stamp (v : Violation) : Violation.Stamp where
  tenantId := v.tenantId
  policyId := v.policyId
  ruleId := v.ruleId
  dependency := v.dependency
  type := v.type
  severity := v.severity
  tags := v.tags
  firstDetected := v.firstDetected

/-- A finding does not write over the stamp of a violation. -/
@[simp] theorem Finding.stamp_seenAgain (now : Timestamp) (found stored : Violation) :
    (seenAgain now found stored).stamp = stored.stamp := by
  unfold seenAgain
  split <;> rfl

namespace MemoryStore

variable {now : Timestamp} {m t u : MemoryStore Violation} {v w : Violation} {vs : List Violation}

/-- The violation that one of some findings goes back to: the one that its text leads to in the store,
or else the first of the findings with its text. -/
def origin (m : MemoryStore Violation) (vs : List Violation) (v : Violation) : Violation :=
  match m.byIndex v.key with
  | some (_, w) => w
  | none => (vs.find? (·.key == v.key)).getD v

theorem origin_of_some {k : Key} (h : m.byIndex v.key = some (k, w)) (vs : List Violation) :
    m.origin vs v = w := by
  rw [origin, h]

theorem origin_of_none (h : m.byIndex v.key = none) (vs : List Violation) :
    m.origin vs v = (vs.find? (·.key == v.key)).getD v := by
  rw [origin, h]

/-- A finding whose text is new goes back to itself if it comes first. -/
theorem origin_cons_self (h : m.byIndex v.key = none) (vs : List Violation) : m.origin (v :: vs) v = v := by
  rw [origin_of_none h]
  simp

/-- A finding whose text is new goes back to one of the findings. -/
theorem origin_mem (h : m.byIndex v.key = none) (hv : v ∈ vs) : m.origin vs v ∈ vs := by
  rw [origin_of_none h]
  cases hfind : vs.find? (·.key == v.key) with
  | none => exact hv
  | some w => exact List.mem_of_find?_eq_some hfind

/-- Storing a finding gives a record with the stamp of its origin. -/
theorem Filed.stamp_stored (h : m.Filed) {text : String} {found : Found Violation}
    (hg : m.getOrAdd v.key { v with id := .str text } (Finding.seenAgain now v) = .ok (found, t))
    (vs : List Violation) : found.record.stamp = (m.origin (v :: vs) v).stamp := by
  cases hb : m.byIndex v.key with
  | some e =>
    obtain ⟨k, w⟩ := e
    obtain ⟨-, hrecord⟩ := h.getOrAdd_refresh hb hg
    rw [hrecord, Finding.stamp_seenAgain, origin_of_some hb]
  | none =>
    rw [origin_cons_self hb]
    rcases getOrAdd_ok hg with ⟨k, old, hr⟩ | ⟨k, ha⟩
    · rw [hr.here] at hb
      cases hb
    · rw [ha.found_eq]
      rfl

/-- What a finding goes back to, it still does after the finding before it was filed. -/
theorem Files.stamp_origin {record : Violation} (h : Files now m v record t)
    (hrecord : record.stamp = (m.origin (v :: vs) v).stamp) (w : Violation) :
    (t.origin vs w).stamp = (m.origin (v :: vs) w).stamp := by
  by_cases hkey : w.key = v.key
  · obtain ⟨k, hk⟩ := h.here
    rw [← hkey] at hk
    rw [origin_of_some hk, hrecord]
    unfold origin
    rw [hkey]
    cases m.byIndex v.key <;> simp
  · have hframe := h.frame w.key hkey
    have hne : (v.key == w.key) = false := by simpa using Ne.symm hkey
    unfold origin
    rw [hframe, List.find?_cons, hne]

/-- **What was filed is stamped by its origin**, whatever was filed after it. -/
theorem Filing.stamp_recorded {events : List Event} (h : Filing now m vs t events) (hm : m.Filed)
    (hu : Follows now t u) : ∀ v ∈ vs, (recorded now u v).stamp = (m.origin vs v).stamp := by
  induction h with
  | nil m => simp
  | @cons m t₁ t v vs text found events new named stored rest ih =>
    have hv := hm.files new named stored
    have hstamp := hm.stamp_stored stored vs
    refine List.forall_mem_cons.mpr ⟨?_, fun w hw => ?_⟩
    · rw [hv.recorded_eq ((rest.follows hv.filed).trans hu), hstamp]
    · rw [ih hv.filed hu w hw, hv.stamp_origin hstamp]

end MemoryStore
end SupplyGate
