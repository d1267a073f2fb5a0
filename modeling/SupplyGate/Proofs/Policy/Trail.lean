import SupplyGate.Proofs.Gate.Readiness
import SupplyGate.Proofs.Policy.Expiry
import SupplyGate.Proofs.Policy.Revision

/-!
# The trail of exceptions

The exceptions of a policy are a list to which new ones are added at the end. Revoking one by its id puts the
first one with that id, revoked, in the place of every one that has it. So only one exception changes, and
only in its status, just when all the others with the id are what it is once it is revoked
(`revokedIn_eq_iff`). Whatever is done, none that was out of force is in force again (`Continues`).
-/

namespace SupplyGate

/-! ## Updating -/

theorem PolicyEdit.foldlM_apply_exceptions {edits : List PolicyEdit} {p q : Policy}
    (h : edits.foldlM PolicyEdit.apply p = .ok q) (hedits : ∀ es, PolicyEdit.exceptions es ∉ edits) :
    q.exceptions = p.exceptions := by
  refine foldlM_keeps (P := fun q => q.exceptions = p.exceptions) (fun e he p' q' hp' hq' => ?_) rfl h
  cases e with
  | unknown field => cases hq'
  | exceptions es => exact absurd he (hedits es)
  | _ =>
    cases hq'
    exact hp'

namespace Gate

section Updating

variable {p q : Policy} {now : Timestamp} {updatedBy : Value}

theorem withChanged_exceptions {rules : Option (List Rule)} (h : withChanged p now updatedBy rules = .ok q) :
    q.exceptions = p.exceptions := by
  cases rules with
  | none =>
    cases h
    rfl
  | some rules =>
    obtain ⟨version, -, h⟩ := Reading.bind_eq_ok.mp h
    obtain rfl := Reading.pure_eq_ok.mp h
    rfl

theorem withMetadata_exceptions {metadata : Option (Loose PolicyMetadata)} (h : withMetadata p metadata = .ok q) :
    q.exceptions = p.exceptions := by
  cases metadata with
  | none =>
    cases h
    rfl
  | some metadata =>
    cases metadata with
    | raw v => cases h
    | held m =>
      cases h
      rfl

/-- An update leaves the exceptions alone unless it names them. -/
theorem assembled_exceptions {u : PolicyUpdate} {rules : Option (List Rule)}
    (h : assembled p u rules now updatedBy = .ok q) (hu : ∀ es, PolicyEdit.exceptions es ∉ u.edits) :
    q.exceptions = p.exceptions := by
  obtain ⟨raised, hraised, h⟩ := Reading.bind_eq_ok.mp h
  obtain ⟨described, hdescribed, h⟩ := Reading.bind_eq_ok.mp h
  obtain ⟨edited, hedited, h⟩ := Reading.bind_eq_ok.mp h
  obtain rfl := Reading.pure_eq_ok.mp h
  calc edited.exceptions = described.exceptions := PolicyEdit.foldlM_apply_exceptions hedited hu
    _ = raised.exceptions := withMetadata_exceptions hdescribed
    _ = p.exceptions := withChanged_exceptions hraised

end Updating

/-! ## Granting and revoking -/

theorem moreExceptions_ok {p : Policy} {e : PolicyException} {exceptions : Loose (List (Loose PolicyException))}
    (h : moreExceptions p e = .ok exceptions) :
    ∃ ls, p.exceptions = .held ls ∧ exceptions = .held (ls ++ [.held e]) := by
  unfold moreExceptions at h
  split at h
  · next ls hls =>
    cases h
    exact ⟨ls, hls, rfl⟩
  · cases h

theorem exceptionWithId_held (id : Value) : ∀ es : List PolicyException,
    exceptionWithId id (es.map .held) = .ok (es.find? fun l => l.id.same id)
  | [] => rfl
  | e :: es => by
    change (if e.id.same id then .ok (some e) else exceptionWithId id (es.map .held)) = _
    rw [exceptionWithId_held id es, List.find?_cons]
    cases e.id.same id <;> rfl

/-- Where one of the exceptions is found, they are a list. -/
theorem exceptions_of_exceptionList {p : Policy} {es : List PolicyException} {e : PolicyException}
    {test : PolicyException → Bool} (h : p.exceptionList = .ok (es.map .held)) (he : es.find? test = some e) :
    p.exceptions = .held (es.map .held) := by
  obtain ⟨first, rest, rfl⟩ := List.exists_cons_of_ne_nil (List.ne_nil_of_mem (List.mem_of_find?_eq_some he))
  unfold Policy.exceptionList at h
  split at h
  · next hls =>
    rw [hls]
    exact congrArg Loose.held (Except.ok.inj h)
  · obtain ⟨items, -, h⟩ := Reading.bind_eq_ok.mp h
    cases items <;> cases h

end Gate

/-- Some exceptions with one of them, revoked, in the place of all that have an id. -/
def revokedIn (id : Value) (e : PolicyException) (es : List PolicyException) : List PolicyException :=
  es.map fun l => if l.id.same id then { e with status := .revoked } else l

/-- Rewriting the exceptions one by one goes through just when each of them is one. -/
theorem revokedEach_ok {id : Value} {e : PolicyException} {ls rs : List (Loose PolicyException)}
    (h : (ls.mapM fun l => do
      let l ← l.part "id"
      return Loose.held (if l.id.same id then { e with status := .revoked } else l) : Reading _) = .ok rs) :
    ∃ es : List PolicyException, ls = es.map .held ∧ rs = (revokedIn id e es).map .held := by
  induction ls generalizing rs with
  | nil => exact ⟨[], rfl, (Reading.pure_eq_ok.mp h).symm⟩
  | cons l ls ih =>
    obtain ⟨r, rs, hr, hrs, rfl⟩ := Reading.mapM_cons_eq_ok.mp h
    obtain ⟨es, rfl, rfl⟩ := ih hrs
    obtain ⟨e', he', hr⟩ := Reading.bind_eq_ok.mp hr
    obtain rfl := Reading.pure_eq_ok.mp hr
    rw [Loose.part_eq_ok.mp he']
    exact ⟨e' :: es, rfl, rfl⟩

theorem revokedIn_eq_self_iff {id : Value} {e : PolicyException} {es : List PolicyException} :
    revokedIn id e es = es ↔ ∀ l ∈ es, l.id.same id = true → l = { e with status := .revoked } := by
  induction es with
  | nil => simp [revokedIn]
  | cons l es ih =>
    change (if l.id.same id then _ else l) :: revokedIn id e es = l :: es ↔ _
    rw [List.cons.injEq, ih, List.forall_mem_cons, ite_eq_right_iff]
    exact and_congr_left fun _ => forall_congr' fun _ => eq_comm

/-- One exception has an id, and the others that have it are that one, revoked. -/
def Singled (id : Value) (es : List PolicyException) : Prop :=
  ∃ before e after, es = before ++ e :: after ∧ e.id.same id = true ∧
    ∀ l ∈ before ++ after, l.id.same id = true → l = { e with status := .revoked }

/-- **When revoking by an id changes one exception only.** One exception with the id is revoked and the others
stay just when the others with that id are that one, revoked. -/
theorem revokedIn_eq_iff {id : Value} {e : PolicyException} {es : List PolicyException}
    (he : es.find? (fun l => l.id.same id) = some e) :
    (∃ before l after, es = before ++ l :: after ∧ l.id.same id = true ∧
      revokedIn id e es = before ++ { l with status := .revoked } :: after) ↔ Singled id es := by
  have hmap : ∀ (before : List PolicyException) l after, l.id.same id = true →
      revokedIn id e (before ++ l :: after) =
        revokedIn id e before ++ { e with status := .revoked } :: revokedIn id e after := by
    intro before l after hl
    simp [revokedIn, hl]
  constructor
  · rintro ⟨before, l, after, rfl, hl, hrevoked⟩
    rw [hmap before l after hl] at hrevoked
    obtain ⟨hbefore, hrest⟩ := List.append_inj hrevoked (by simp [revokedIn])
    obtain ⟨hone, hafter⟩ := List.cons.inj hrest
    refine ⟨before, l, after, rfl, hl, fun l' hl' hid => ?_⟩
    rw [← hone]
    rcases List.mem_append.mp hl' with hl' | hl'
    · exact revokedIn_eq_self_iff.mp hbefore l' hl' hid
    · exact revokedIn_eq_self_iff.mp hafter l' hl' hid
  · rintro ⟨before, l, after, rfl, hl, hothers⟩
    have hone : ({ e with status := .revoked } : PolicyException) = { l with status := .revoked } := by
      have hmem := List.mem_of_find?_eq_some he
      have hid : e.id.same id = true := by simpa using List.find?_some he
      rcases List.mem_append.mp hmem with hmem | hmem
      · rw [hothers e (List.mem_append_left _ hmem) hid]
      · rcases List.mem_cons.mp hmem with rfl | hmem
        · rfl
        · rw [hothers e (List.mem_append_right _ hmem) hid]
    refine ⟨before, l, after, rfl, hl, ?_⟩
    rw [hmap before l after hl, hone, revokedIn_eq_self_iff.mpr fun l' hl' => ?_,
      revokedIn_eq_self_iff.mpr fun l' hl' => ?_]
    · exact hone ▸ hothers l' (List.mem_append_right _ hl')
    · exact hone ▸ hothers l' (List.mem_append_left _ hl')

/-! ## What holds over any run -/

/-- What takes the place of an exception: the exception itself, or one that is out of force. -/
def Unrevived (l l' : Loose PolicyException) : Prop := l' = l ∨ ∃ e, l' = .held e ∧ e.status ≠ .active

/-- Exceptions that go on from others: in the place of each of these there is one that is not revived. -/
inductive Continues : Loose (List (Loose PolicyException)) → Loose (List (Loose PolicyException)) → Prop where
  | raw (v : Value) : Continues (.raw v) (.raw v)
  | held {ls ls' : List (Loose PolicyException)}
      (places : ∀ (i : Nat) l, ls[i]? = some l → ∃ l', ls'[i]? = some l' ∧ Unrevived l l') :
      Continues (.held ls) (.held ls')

namespace Continues

theorem refl : ∀ es, Continues es es
  | .raw v => .raw v
  | .held _ => .held fun _ l hl => ⟨l, hl, .inl rfl⟩

theorem trans {es es' es'' : Loose (List (Loose PolicyException))} (h : Continues es es') (h' : Continues es' es'') :
    Continues es es'' := by
  cases h with
  | raw v => exact h'
  | held places =>
    cases h' with
    | held places' =>
      refine .held fun i l hl => ?_
      obtain ⟨l', hl', hfirst⟩ := places i l hl
      obtain ⟨l'', hl'', rfl | hout⟩ := places' i l' hl'
      · exact ⟨l'', hl'', hfirst⟩
      · exact ⟨l'', hl'', .inr hout⟩

theorem granted (ls : List (Loose PolicyException)) (l : Loose PolicyException) :
    Continues (.held ls) (.held (ls ++ [l])) :=
  .held fun _ l' hl => ⟨l', by rw [List.getElem?_append_left (List.getElem?_eq_some_iff.mp hl).1, hl], .inl rfl⟩

theorem revoked (id : Value) (e : PolicyException) (es : List PolicyException) :
    Continues (.held (es.map .held)) (.held ((revokedIn id e es).map .held)) := by
  refine .held fun i l hl => ?_
  rw [List.getElem?_map, Option.map_eq_some_iff] at hl
  obtain ⟨d, hd, rfl⟩ := hl
  refine ⟨.held (if d.id.same id then { e with status := .revoked } else d), by simp [revokedIn, hd], ?_⟩
  split
  · exact .inr ⟨_, rfl, by simp⟩
  · exact .inl rfl

theorem swept (now : Timestamp) : ∀ es : Loose (List (Loose PolicyException)),
    Continues es (es.map (List.map (Loose.map (PolicyException.swept now))))
  | .raw v => .raw v
  | .held ls => by
    refine .held fun i l hl => ⟨l.map (.swept now), by rw [List.getElem?_map, hl, Option.map_some], ?_⟩
    cases l with
    | raw v => exact .inl rfl
    | held d =>
      change Unrevived (.held d) (.held (d.swept now))
      unfold PolicyException.swept
      split
      · exact .inr ⟨_, rfl, by simp⟩
      · exact .inl rfl

end Continues

end SupplyGate
