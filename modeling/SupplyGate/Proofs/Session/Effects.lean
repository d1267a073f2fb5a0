import SupplyGate.Proofs.Session.Writing

/-!
# What requests do to rules and exceptions

A request that writes has one `Effect` on the policies on record: one was created, updated or deleted,
an exception was granted or revoked, exceptions were expired, or nothing was written. A request that is
refused before it leaves them as they were, but for an expiry that went some of the way (`Request.settles`).
-/

namespace SupplyGate

namespace Request

/-- The rules that a request comes with; those of a template come without ids. -/
def Brings (now : Timestamp) : Request → List Rule → Prop
  | .createPolicy _ source _, rules => ∃ p, source.policy now = .ok p ∧ rules = p.rules
  | .applyPolicy _ source _, rules => ∃ p, source.policy now = .ok p ∧ rules = p.rules
  | .createFromTemplate .., rules => Bare rules
  | .ensureTemplate .., rules => Bare rules
  | .updatePolicy _ updates _, rules => ∃ u, PolicyUpdate.ofDoc updates = .ok u ∧ u.rules = some (rules.map .held)
  | _, _ => False

/-- The update that a request makes where there is a policy under a key: by its document, or by a policy that
describes the one on record. -/
def Updates (now : Timestamp) (m : MemoryStore Policy) : Request → Key → PolicyUpdate → Prop
  | .applyPolicy tenantId source _, k, u => ∃ p e, source.policy now = .ok p ∧ m.described tenantId p = .ok (some e) ∧
      e.id.asKey = .ok k ∧ u = .ofPolicy p
  | .updatePolicy id updates _, k, u => id.asKey = .ok k ∧ PolicyUpdate.ofDoc updates = .ok u
  | _, _, _ => False

/-- A request makes one update at most. -/
theorem Updates.unique {now : Timestamp} {m : MemoryStore Policy} {r : Request} {k k' : Key} {u u' : PolicyUpdate}
    (h : r.Updates now m k u) (h' : r.Updates now m k' u') : k = k' ∧ u = u' := by
  cases r with
  | applyPolicy =>
    obtain ⟨p, e, hp, he, hk, rfl⟩ := h
    obtain ⟨p', e', hp', he', hk', rfl⟩ := h'
    obtain rfl := Except.ok.inj (hp.symm.trans hp')
    obtain rfl := Option.some.inj (Except.ok.inj (he.symm.trans he'))
    exact ⟨Except.ok.inj (hk.symm.trans hk'), rfl⟩
  | updatePolicy => exact ⟨Except.ok.inj (h.1.symm.trans h'.1), Except.ok.inj (h.2.symm.trans h'.2)⟩
  | _ => exact h.elim

/-- The rules of an update are rules that the request comes with. -/
theorem Updates.brings {now : Timestamp} {m : MemoryStore Policy} {r : Request} {k : Key} {u : PolicyUpdate}
    {rules : List Rule} (h : r.Updates now m k u) (hu : u.rules = some (rules.map .held)) : r.Brings now rules := by
  cases r with
  | applyPolicy =>
    obtain ⟨p, e, hp, -, -, rfl⟩ := h
    exact ⟨p, hp, (Loose.map_held_inj (Option.some.inj hu)).symm⟩
  | updatePolicy => exact ⟨u, h.2, hu⟩
  | _ => exact h.elim

/-- The request may be answered without a change of policies. -/
def Spares : Request → Prop
  | .ensureTemplate .. => True
  | r => r.Reads

theorem Reads.spares {r : Request} (h : r.Reads) : r.Spares := by
  cases r <;> first | exact h | trivial

/-- What a request that writes does to the policies on record: `c` ids of rules were given out before, and
`n` after it. -/
inductive Effect (now : Timestamp) (c n : Nat) (m : MemoryStore Policy) : Request → MemoryStore Policy → Prop where
  | created {r : Request} {rules : List Rule} {k : Key} {p : Policy} (brings : r.Brings now rules)
      (new : ∀ k u, ¬ r.Updates now m k u) (assigned : Assigned [] c rules p.rules n)
      (keyed : MemoryStore.keyOf p = .ok k) (free : m.lookup k = none) : Effect now c n m r (m.store k p)
  | updated {r : Request} {k : Key} {p q : Policy} {u : PolicyUpdate} (updates : r.Updates now m k u)
      (here : m.lookup k = some p) (renews : p.Renews u now c n q) : Effect now c n m r (m.store k q)
  | deleted {id : Value} {k : Key} (named : id.asKey = .ok k) : Effect now c n m (.deletePolicy id) (m.erase k)
  | granted {id eid : Value} {e : PolicyException} {k : Key} {p : Policy} {ls : List (Loose PolicyException)}
      (named : id.asKey = .ok k) (here : m.lookup k = some p) (list : p.exceptions = .held ls)
      (stands : StandsFor e.id eid) :
      Effect now c n m (.addException id e)
        (m.store k { p with exceptions := .held (ls ++ [.held { e with id := eid }]), updatedAt := now })
  | revoked {id eid revokedBy : Value} {e : PolicyException} {k : Key} {p : Policy} {es : List PolicyException}
      (named : id.asKey = .ok k) (here : m.lookup k = some p) (list : p.exceptions = .held (es.map .held))
      (found : es.find? (fun l => l.id.same eid) = some e) :
      Effect now c n m (.revokeException id eid revokedBy)
        (m.store k { p with exceptions := .held ((revokedIn eid e es).map .held), updatedAt := now })
  | expired {at? : Option Timestamp} : Effect now c n m (.expireExceptions at?) (m.swept (at?.getD now))
  | spared {r : Request} (spares : r.Spares) : Effect now c n m r m

/-- What a request that is refused before it writes leaves of the policies on record. -/
def Remains (now : Timestamp) (m : MemoryStore Policy) : Request → MemoryStore Policy → Prop
  | .expireExceptions at?, m' => m.PartlySwept (at?.getD now) m'
  | _, m' => m' = m

end Request

namespace Gate

/-- The policies on record are in some relation to the ids of rules given out, which are more than before. -/
def Follows (c : Nat) (R : Nat → MemoryStore Policy → Prop) (t : GateState) : Prop :=
  ∃ m, Still m t ∧ c ≤ t.ids.count .rule ∧ R (t.ids.count .rule) m

theorem follows_elsewhere (m : MemoryStore Policy) (c : Nat) :
    Elsewhere fun t => Still m t ∧ c ≤ t.ids.count .rule where
  recorded _ _ _ hs _ := hs
  numbered s kind hs := by
    refine ⟨hs.1, ?_⟩
    have hcount := Ids.count_bump s.ids kind .rule
    have hbefore := hs.2
    change c ≤ (s.ids.bump kind).count .rule
    omega
  published _ _ hs := hs
  called _ _ hs := hs
  violations _ _ hs := hs
  strategies _ _ hs := hs
  clocked _ _ hs := hs

section Follows

variable {α : Type} {s t : GateState} {m : MemoryStore Policy} {c n : Nat} {R : Nat → MemoryStore Policy → Prop}

theorem Stands.follows (h : Stands s m n t) (hcn : c ≤ n) (hR : R n m) : Follows c R t :=
  ⟨m, h.policies, by rwa [h.rules], by rwa [h.rules]⟩

theorem Took.follows (h : Took s t) (hs : Still m s) (hR : ∀ n, R n m) : Follows (s.ids.count .rule) R t :=
  ⟨m, by rwa [Still, h.eq], h.more .rule, hR _⟩

/-- A step that writes, or is refused before it does. -/
theorem Settles.written {x : Gate α} {Q : α → GateState → Prop} (hs : Still m s)
    (hx : Settles (Taken s (s.ids.count .rule)) x Q (Took s)) (hQ : ∀ a t, Q a t → Follows (s.ids.count .rule) R t) :
    Settles (· = s) x (fun _ => Follows (s.ids.count .rule) R) (Follows (s.ids.count .rule) fun _ m' => m' = m) := by
  rintro _ rfl
  obtain ⟨hreturns, hfails⟩ := hx _ ⟨.refl _, rfl⟩
  exact ⟨fun a t ha => hQ a t (hreturns a t ha), fun f t hf => (hfails f t hf).follows hs fun _ => rfl⟩

/-- The policies and the ids are those that were written, whatever was told of it. -/
theorem Concluded.follows_iff {w : Reading (List Value) × GateState} {o : Reading α × GateState} (h : Concluded w o) :
    Follows c R o.2 ↔ Follows c R w.2 := by
  cases h <;> exact .rfl

end Follows

end Gate

open Gate

/-- **What a request writes on the record of policies**, or leaves there if it is refused before. -/
theorem Request.settles {m : MemoryStore Policy} {s : GateState} (hs : Still m s) (hm : Upheld m)
    (hl : s.logsEvents = false) (r : Request) : let c := s.ids.count .rule
    Settles (· = s) r.written (fun _ => Follows c fun n m' => r.Effect s.now c n m m')
      (Follows c fun _ m' => r.Remains s.now m m') := by
  intro c
  have hreads : r.Reads → Settles (· = s) r.written
      (fun _ => Follows c fun n m' => r.Effect s.now c n m m') (Follows c fun _ m' => m' = m) := by
    intro hr u hu
    rw [hu]
    have hkept : Follows c (fun _ m' => m' = m) (outcome r.run s).2 := by
      obtain ⟨hm', hc⟩ := (hr.keeps (follows_elsewhere m c) s ⟨hs, le_rfl⟩).1
      exact ⟨m, hm', hc, rfl⟩
    have hwritten := (r.tells s hl).follows_iff.mp hkept
    refine ⟨fun _ t ht => ?_, fun _ t hf => ?_⟩
    · rw [show outcome r.written s = _ from ht] at hwritten
      obtain ⟨_, hm', hc, rfl⟩ := hwritten
      exact ⟨_, hm', hc, .spared hr.spares⟩
    · rwa [show outcome r.written s = _ from hf] at hwritten
  cases r with
  | createPolicy tenantId source createdBy =>
    refine ((settles_enterPolicy hs tenantId source createdBy).written hs (fun p t h => ?_)).returning
    obtain ⟨asked, ⟨k, n, ht, hassigned, hk, hfree⟩, hasked⟩ := h
    exact ht.follows hassigned.le (.created ⟨asked, hasked, rfl⟩ (fun _ _ => id) hassigned hk hfree)
  | createFromTemplate tenantId templateId choice createdBy =>
    refine ((settles_enterFromTemplate hs tenantId templateId choice createdBy).written hs fun p t h => ?_).returning
    obtain ⟨bare, ⟨k, n, ht, hassigned, hk, hfree⟩, hbare⟩ := h
    exact ht.follows hassigned.le (.created hbare (fun _ _ => id) hassigned hk hfree)
  | ensureTemplate tenantId templateId createdBy =>
    refine (settles_written_ensureTemplate hs tenantId templateId createdBy).written hs fun _ t h => ?_
    obtain ht | ⟨bare, p, ⟨k, n, ht, hassigned, hk, hfree⟩, hbare⟩ := h
    · exact ht.1.follows hs fun _ => .spared trivial
    · exact ht.follows hassigned.le (.created hbare (fun _ _ => id) hassigned hk hfree)
  | applyPolicy tenantId source appliedBy =>
    refine (settles_written_applyPolicy hs hm.keyed tenantId source appliedBy).written hs fun _ t h => ?_
    obtain ⟨asked, q, hasked, ⟨hnone, k, n, ht, hassigned, hk, hfree⟩ | ⟨k, n, e, p, ht, he, hk, hp, hrenews⟩⟩ := h
    · refine ht.follows hassigned.le (.created ⟨asked, hasked, rfl⟩ ?_ hassigned hk hfree)
      rintro l u ⟨asked', e, hasked', he, -⟩
      obtain rfl := Except.ok.inj (hasked.symm.trans hasked')
      cases hnone.symm.trans he
    · exact ht.follows hrenews.le (.updated ⟨asked, e, hasked, he, hk, rfl⟩ hp hrenews)
  | updatePolicy policyId updates updatedBy =>
    have hsettles := settles_renewPolicy (c := c) hs hm.keyed policyId (PolicyUpdate.ofDoc updates) updatedBy
    refine (hsettles.written hs fun q t h => ?_).returning
    obtain ⟨k, n, ht, hk, p, u, hu, hp, hrenews⟩ := h
    exact ht.follows hrenews.le (.updated ⟨hk, hu⟩ hp hrenews)
  | deletePolicy policyId =>
    refine ((settles_dropPolicy hs policyId).written hs fun q t h => ?_).returning
    obtain ⟨k, ht, hk⟩ := h
    exact ht.follows le_rfl (.deleted hk)
  | addException policyId e =>
    refine ((settles_enterException hs hm.keyed policyId e).written hs (fun _ t h => ?_)).returning
    obtain ⟨k, p, ls, id, ht, hk, hp, hls, hid⟩ := h
    exact ht.follows le_rfl (.granted hk hp hls hid)
  | revokeException policyId exceptionId revokedBy =>
    have hsettles := settles_revokeException (c := c) hs hm.keyed hl policyId exceptionId revokedBy
    refine (hsettles.written hs fun _ t h => ?_).discard.returning
    obtain ⟨k, p, es, e, u, event, hu, rfl, hk, hp, hes, he⟩ := h
    have hfollows : Follows c (fun n m' => (Request.revokeException policyId exceptionId revokedBy).Effect s.now c n m m') u :=
      hu.follows le_rfl (.revoked hk hp hes he)
    exact hfollows
  | expireExceptions at? =>
    refine ((settles_expireExceptions hs hm.distinct hm.keyed at?).mono ?_ ?_).discard.returning
    · rintro _ _ rfl
      exact ⟨_, rfl, le_rfl, .expired⟩
    · rintro _ ⟨m', rfl, hm'⟩
      exact ⟨m', rfl, le_rfl, hm'⟩
  | _ => exact hreads trivial

end SupplyGate
