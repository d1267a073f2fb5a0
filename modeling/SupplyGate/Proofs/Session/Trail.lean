import SupplyGate.Proofs.Policy.Trail
import SupplyGate.Proofs.Session.Effects

/-!
# Exceptions as an audit trail

Until a policy is deleted, or an update names its exceptions, these only grow: by one at the end with each
exception that is granted. One that is revoked or expires stays in its place with another status, and none is
in force again. Only a revocation by an id that several exceptions share overwrites what it should leave
(`trail_iff`).
-/

namespace SupplyGate

open Gate

namespace Request

/-- The request is an update that names the exceptions of the policy under a key. -/
def NamesExceptions : Request → Key → Prop
  | .updatePolicy id updates _, k =>
    id.asKey = .ok k ∧ ∃ u es, PolicyUpdate.ofDoc updates = .ok u ∧ PolicyEdit.exceptions es ∈ u.edits
  | _, _ => False

/-- The request is about exceptions of the policy under a key. -/
def Marks : Request → Key → Prop
  | .addException id _, k => id.asKey = .ok k
  | .revokeException id _ _, k => id.asKey = .ok k
  | .expireExceptions _, _ => True
  | _, _ => False

/-- How a request may leave the exceptions of the policy under a key, whether it has written or was refused before:
one more is granted, one with the id is revoked, those that have lapsed expire, or all stay as they were. -/
inductive Trail (now : Timestamp) (k : Key) :
    Request → Bool → Loose (List (Loose PolicyException)) → Loose (List (Loose PolicyException)) → Prop where
  | granted {id eid : Value} {e : PolicyException} {ls : List (Loose PolicyException)} (named : id.asKey = .ok k)
      (stands : StandsFor e.id eid) :
      Trail now k (.addException id e) true (.held ls) (.held (ls ++ [.held { e with id := eid }]))
  | revoked {id eid revokedBy : Value} {e : PolicyException} {before after : List (Loose PolicyException)}
      (named : id.asKey = .ok k) (has : e.id.same eid = true) :
      Trail now k (.revokeException id eid revokedBy) true (.held (before ++ .held e :: after))
        (.held (before ++ .held { e with status := .revoked } :: after))
  | expired {at? : Option Timestamp} {written : Bool} {es : Loose (List (Loose PolicyException))} :
      Trail now k (.expireExceptions at?) written es
        (es.map (List.map (Loose.map (PolicyException.swept (at?.getD now)))))
  | kept {r : Request} {written : Bool} {es : Loose (List (Loose PolicyException))}
      (other : written = true → ¬ r.Marks k) : Trail now k r written es es

/-- If the request revokes an exception of the policy under a key, it is the only one that it should not leave. -/
def Singles : Request → Key → Loose (List (Loose PolicyException)) → Prop
  | .revokeException id eid _, k, exceptions =>
    id.asKey = .ok k → ∃ es : List PolicyException, exceptions = .held (es.map .held) ∧ Singled eid es
  | _, _, _ => True

section Trail

variable {r : Request} {now : Timestamp} {k : Key} {b : Bool} {es : Loose (List (Loose PolicyException))}

theorem singles_of_not_marks (h : ¬ r.Marks k) : r.Singles k es := by
  cases r with
  | revokeException => exact fun hk => absurd hk h
  | _ => trivial

theorem Brings.not_marks {rules : List Rule} (h : r.Brings now rules) : ¬ r.Marks k := by
  cases r <;> first | exact id | exact h.elim

theorem Updates.not_marks {m : MemoryStore Policy} {l : Key} {u : PolicyUpdate} (h : r.Updates now m l u) :
    ¬ r.Marks k := by
  cases r <;> first | exact id | exact h.elim

theorem Spares.not_marks (h : r.Spares) : ¬ r.Marks k := by
  cases r <;> first | exact id | exact h.elim

/-- An update that does not name the exceptions of a policy leaves them alone. -/
theorem Updates.exceptions {m : MemoryStore Policy} {p q : Policy} {u : PolicyUpdate} {c n : Nat} (h : r.Updates now m k u)
    (hq : p.Renews u now c n q) (hr : ¬ r.NamesExceptions k) : q.exceptions = p.exceptions := by
  obtain ⟨changed, updatedBy, hq, -⟩ := hq
  refine assembled_exceptions hq fun es hes => ?_
  cases r with
  | applyPolicy =>
    obtain ⟨asked, e, -, -, -, rfl⟩ := h
    simp [PolicyUpdate.ofPolicy] at hes
  | updatePolicy => exact hr ⟨h.1, u, es, h.2, hes⟩
  | _ => exact h.elim

/-- Revoking by an id leaves a trail just when it singles out one exception. -/
theorem trail_revoked_iff {id eid revokedBy : Value} {e : PolicyException} {es : List PolicyException}
    (hk : id.asKey = .ok k) (he : es.find? (fun l => l.id.same eid) = some e) :
    (revokeException id eid revokedBy).Trail now k true (.held (es.map .held)) (.held ((revokedIn eid e es).map .held)) ↔
      Singled eid es := by
  rw [← revokedIn_eq_iff he]
  constructor
  · intro h
    generalize hes : Loose.held (es.map Loose.held) = before,
      hes' : Loose.held ((revokedIn eid e es).map Loose.held) = after at h
    cases h with
    | kept other => exact absurd hk (other rfl)
    | revoked named has =>
      obtain ⟨before, rest, rfl, rfl, hrest⟩ := List.map_eq_append_iff.mp (Loose.held.inj hes)
      obtain ⟨l, after, rfl, hl, rfl⟩ := List.map_eq_cons_iff.mp hrest
      obtain rfl := Loose.held.inj hl
      refine ⟨before, l, after, rfl, has, Loose.map_held_inj ?_⟩
      rw [Loose.held.inj hes', List.map_append, List.map_cons]
  · rintro ⟨before, l, after, hes, hl, hrevoked⟩
    rw [hrevoked, hes]
    simpa using Trail.revoked hk hl

/-- **What a request that writes does to the exceptions of a policy.** -/
theorem Effect.trail {c n : Nat} {m m' : MemoryStore Policy} {p : Policy} (h : r.Effect now c n m m')
    (hp : m.lookup k = some p) (hd : ¬ r.Deletes k) (hn : ¬ r.NamesExceptions k) :
    ∃ q, m'.lookup k = some q ∧ Continues p.exceptions q.exceptions ∧
      (r.Trail now k true p.exceptions q.exceptions ↔ r.Singles k p.exceptions) := by
  have hkept : ∀ {q : Policy}, m'.lookup k = some q → q.exceptions = p.exceptions → ¬ r.Marks k →
      ∃ q, m'.lookup k = some q ∧ Continues p.exceptions q.exceptions ∧
        (r.Trail now k true p.exceptions q.exceptions ↔ r.Singles k p.exceptions) := by
    intro q hq hsame hr
    refine ⟨q, hq, hsame ▸ .refl _, ?_⟩
    rw [hsame]
    exact iff_of_true (.kept fun _ => hr) (singles_of_not_marks hr)
  cases h with
  | created brings _ _ _ free =>
    have hne : k ≠ _ := fun he => by
      rw [he, free] at hp
      cases hp
    exact hkept ((MemoryStore.lookup_store_ne hne _).trans hp) rfl brings.not_marks
  | @updated _ l p' q u updates here renews =>
    by_cases hk : k = l
    · subst hk
      obtain rfl : p = p' := Option.some.inj (hp.symm.trans here)
      exact hkept (MemoryStore.lookup_store_self k q) (updates.exceptions renews hn) updates.not_marks
    · exact hkept ((MemoryStore.lookup_store_ne hk q).trans hp) rfl updates.not_marks
  | @deleted id l named =>
    have hne : k ≠ l := fun he => hd (he ▸ named)
    exact hkept ((MemoryStore.lookup_erase_ne hne).trans hp) rfl False.elim
  | @granted id eid e l p' ls named here list stands =>
    by_cases hk : k = l
    · subst hk
      obtain rfl : p = p' := Option.some.inj (hp.symm.trans here)
      refine ⟨_, MemoryStore.lookup_store_self k _, ?_, ?_⟩
      · rw [list]
        exact .granted ls _
      · rw [list]
        exact iff_of_true (.granted named stands) trivial
    · have hmarks : ¬ (addException id e).Marks k := fun h => hk (Except.ok.inj (h.symm.trans named))
      exact hkept ((MemoryStore.lookup_store_ne hk _).trans hp) rfl hmarks
  | @revoked id eid revokedBy e l p' es named here list found =>
    by_cases hk : k = l
    · subst hk
      obtain rfl : p = p' := Option.some.inj (hp.symm.trans here)
      refine ⟨_, MemoryStore.lookup_store_self k _, ?_, ?_⟩
      · rw [list]
        exact .revoked eid e es
      · rw [list, trail_revoked_iff named found]
        refine ⟨fun hone _ => ⟨es, rfl, hone⟩, fun hone => ?_⟩
        obtain ⟨es', hes, hone⟩ := hone named
        rwa [Loose.map_held_inj (Loose.held.inj hes)]
    · have hmarks : ¬ (revokeException id eid revokedBy).Marks k := fun h => hk (Except.ok.inj (h.symm.trans named))
      exact hkept ((MemoryStore.lookup_store_ne hk _).trans hp) rfl hmarks
  | @expired at? =>
    refine ⟨p.swept (at?.getD now), by rw [MemoryStore.lookup_swept, hp, Option.map_some], .swept _ _, ?_⟩
    exact iff_of_true .expired trivial
  | spared spares => exact hkept hp rfl spares.not_marks

/-- What a request that is refused before it writes leaves of the exceptions of a policy. -/
theorem Remains.trail {m m' : MemoryStore Policy} {p : Policy} (h : r.Remains now m m') (hp : m.lookup k = some p) :
    ∃ q, m'.lookup k = some q ∧ Continues p.exceptions q.exceptions ∧ r.Trail now k false p.exceptions q.exceptions := by
  cases r with
  | expireExceptions at? =>
    obtain ⟨q, hq, rfl | rfl⟩ := MemoryStore.PartlySwept.lookup h hp
    · exact ⟨q, hq, .refl _, .kept nofun⟩
    · exact ⟨_, hq, .swept _ _, .expired⟩
  | _ =>
    obtain rfl : m' = m := h
    exact ⟨p, hp, .refl _, .kept nofun⟩

end Trail

end Request

section Runs

variable {allowed : Request → Prop} {s t : GateState} {m : MemoryStore Policy} {k : Key} {p : Policy}

/-- What a request does to the exceptions of a policy, whether it writes or is refused before. -/
theorem Reachable.trail (h : Reachable allowed s) (hs : Still m s) (hp : m.lookup k = some p) {r : Request}
    (hd : ¬ r.Deletes k) (hn : ¬ r.NamesExceptions k) :
    ∃ m' q, Still m' (outcome r.run s).2 ∧ m'.lookup k = some q ∧ Continues p.exceptions q.exceptions ∧
      (r.Trail s.now k (r.writes s) p.exceptions q.exceptions ↔ (r.writes s = true → r.Singles k p.exceptions)) := by
  obtain ⟨m₀, hs₀, hm⟩ := h.upheld
  obtain rfl : m₀ = m := Store.memory.inj (hs₀.symm.trans hs)
  have hl := h.numbered.unlogged
  obtain ⟨hreturns, hfails⟩ := r.settles hs hm hl s rfl
  unfold Request.writes
  have hends := r.tells s hl
  rcases ho : outcome r.written s with ⟨f | u, t⟩ <;> rw [ho] at hends
  · obtain ⟨m', ht, -, hremains⟩ := hends.follows_iff.mpr (hfails f t ho)
    obtain ⟨q, hq, hcontinues, htrail⟩ := hremains.trail hp
    exact ⟨m', q, ht, hq, hcontinues, iff_of_true htrail nofun⟩
  · obtain ⟨m', ht, -, heffect⟩ := hends.follows_iff.mpr (hreturns u t ho)
    obtain ⟨q, hq, hcontinues, htrail⟩ := heffect.trail hp hd hn
    refine ⟨m', q, ht, hq, hcontinues, htrail.trans ?_⟩
    exact ⟨fun h _ => h, fun h => h rfl⟩

/-- Over any run no exception is lost, and none that is out of force is in force again. -/
theorem Leads.continues (h : Leads (fun r => ¬ r.Deletes k ∧ ¬ r.NamesExceptions k) s t) (hs : Reachable allowed s)
    (hm : Still m s) (hp : m.lookup k = some p) :
    ∃ m' q, Still m' t ∧ m'.lookup k = some q ∧ Continues p.exceptions q.exceptions := by
  induction h with
  | here => exact ⟨m, p, hm, hp, .refl _⟩
  | @request t r led asked ih =>
    obtain ⟨m', q, ht, hq, hcontinues⟩ := ih
    obtain ⟨m'', q', ht', hq', hcontinues', -⟩ := (led.reachable hs).trail ht hq asked.1 asked.2
    exact ⟨m'', q', ht', hq', hcontinues.trans hcontinues'⟩

/-- **When the exceptions of a policy are an audit trail.** Wherever requests lead, take a policy on record and a
request that neither deletes it nor is an update that names its exceptions. Afterwards the policy stands where it
stood, and the request left its exceptions as a trail just when it is not an answered revocation by an id that
other exceptions of the policy have, too, which are not what that one is once it is revoked. And wherever such
requests lead, every exception stays in its place or is replaced by one that is out of force. -/
theorem trail_iff (h : Reachable allowed s) :
    ∃ m, s.policies = .memory m ∧ ∀ k p, (k, p) ∈ m.records →
      (∀ r : Request, ¬ r.Deletes k → ¬ r.NamesExceptions k →
        ∃ m' q, (outcome r.run s).2.policies = .memory m' ∧ (k, q) ∈ m'.records ∧
          (r.Trail s.now k (r.writes s) p.exceptions q.exceptions ↔ (r.writes s = true → r.Singles k p.exceptions))) ∧
      ∀ t, Leads (fun r => ¬ r.Deletes k ∧ ¬ r.NamesExceptions k) s t →
        ∃ m' q, t.policies = .memory m' ∧ (k, q) ∈ m'.records ∧ Continues p.exceptions q.exceptions := by
  obtain ⟨m, hs, hm⟩ := h.upheld
  refine ⟨m, hs, fun k p hmem => ?_⟩
  have hp : m.lookup k = some p := hm.distinct.lookup_of_mem hmem
  refine ⟨fun r hd hn => ?_, fun t ht => ?_⟩
  · obtain ⟨m', q, ht, hq, -, htrail⟩ := h.trail hs hp hd hn
    exact ⟨m', q, ht, MemoryStore.mem_of_lookup hq, htrail⟩
  · obtain ⟨m', q, ht', hq, hcontinues⟩ := ht.continues h hs hp
    exact ⟨m', q, ht', MemoryStore.mem_of_lookup hq, hcontinues⟩

end Runs

section Sample

open Sample

/-- The request that revokes the exception. -/
def revoking : Request := .revokeException "p" "e" "u"

/-- An exception for another package, which has expired, and has the same id. -/
def namesake : PolicyException := { endless with dependency := "other", status := .expired }

/-- The service after it was asked for an exception with an id that another one has. -/
def doubled : GateState := (outcome (Request.addException "p" namesake).run excepted).2

theorem doubled_reachable : Reachable Request.ofService doubled := .request excepted_reachable trivial

/-- The only exception with its id is revoked in its place. -/
theorem trail_iff_excepted :
    Reachable Request.ofService excepted ∧ (outcome revoking.run excepted).1 = .ok () ∧
      ∃ m q, (outcome revoking.run excepted).2.policies = .memory m ∧ (.str "p", q) ∈ m.records ∧
        revoking.Trail moment (.str "p") true (.held [.held endless]) q.exceptions := by
  obtain ⟨m, hm, htrail⟩ := trail_iff excepted_reachable
  let waived : Policy := { plain with createdBy := "u", exceptions := .held [.held endless] }
  have hmem : (.str "p", waived) ∈ m.records := by
    obtain rfl : MemoryStore.empty.store (.str "p") waived = m := Store.memory.inj hm
    exact List.mem_cons_self
  obtain ⟨m', q, hm', hq, hiff⟩ := (htrail _ _ hmem).1 revoking id id
  refine ⟨excepted_reachable, rfl, m', q, hm', hq, hiff.mpr fun _ _ => ⟨[endless], rfl, [], endless, [], rfl, rfl, ?_⟩⟩
  simp

/-- An exception that had expired is overwritten when another one with its id is revoked. -/
theorem doubled_overwritten :
    Reachable Request.ofService doubled ∧ (outcome revoking.run doubled).1 = .ok () ∧
      ∃ m p m' q, doubled.policies = .memory m ∧ (.str "p", p) ∈ m.records ∧
        p.exceptions = .held [.held endless, .held namesake] ∧
        (outcome revoking.run doubled).2.policies = .memory m' ∧ (.str "p", q) ∈ m'.records ∧
        q.exceptions = .held [.held { endless with status := .revoked }, .held { endless with status := .revoked }] :=
  ⟨doubled_reachable, rfl, _, _, _, _, rfl, List.mem_cons_self, rfl, rfl, List.mem_cons_self, rfl⟩

end Sample

end SupplyGate
