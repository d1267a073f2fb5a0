import SupplyGate.Proofs.Session.Invariants
import SupplyGate.Proofs.Session.Updating

/-!
# Applying policies again

Applying a policy creates it, or updates the one on record that it describes: that with its id, or the
first one of the tenant with its name. Either way the policy on record then is one that the same policy
describes, and applying it again is an update. That update changes nothing but the time just when the
rules stay as they are and the version can be told of (`apply_again_iff`). The rules do stay where names tell
them apart. Of two rules with one name and no ids of their own, the first is given the id of the second.
-/

namespace SupplyGate

open Gate

/-- The policy that a policy describes: that with its id, or else the first of the tenant with its name. -/
def MemoryStore.described (m : MemoryStore Policy) (tenantId : Value) (p : Policy) : Reading (Option Policy) :=
  if p.id.truthy then m.get p.id else .ok ((m.ofTenant tenantId).find? fun q => q.name.same p.name)

namespace MemoryStore

variable {m : MemoryStore Policy} {tenantId : Value} {p q : Policy} {k : Key}

/-- A policy belongs to the tenant and has the name of another one. -/
def namesake (tenantId : Value) (p q : Policy) : Bool := q.tenantId.same tenantId && q.name.same p.name

theorem find?_ofTenant : (m.ofTenant tenantId).find? (fun q => q.name.same p.name) =
    (m.records.map (·.2)).find? (namesake tenantId p) := by
  rw [ofTenant, List.find?_filter]
  congr 1
  funext q
  rw [Bool.decide_and, Bool.decide_coe, Bool.decide_coe]
  rfl

theorem namesake_of {name : String} (htenant : q.tenantId.same tenantId = true) (hname : q.name = p.name)
    (htext : p.name = .str name) : namesake tenantId p q = true := by
  rw [namesake, htenant, hname, htext]
  simp [Value.same, Scalar.same, Scalar.key]

/-- The policy that is described is on record under the key of its id. -/
theorem lookup_of_described {e : Policy} (hm : Upheld m) (h : m.described tenantId p = .ok (some e))
    (hk : e.id.asKey = .ok k) : m.lookup k = some e := by
  obtain ⟨l, hl⟩ : ∃ l, (l, e) ∈ m.records := by
    unfold described at h
    split at h
    · obtain ⟨l, -, hl⟩ := get_ok.mp h
      exact ⟨l, mem_of_lookup hl.symm⟩
    · have hmem := List.mem_of_mem_filter (List.mem_of_find?_eq_some (Except.ok.inj h))
      obtain ⟨⟨l, _⟩, hl, rfl⟩ := List.mem_map.mp hmem
      exact ⟨l, hl⟩
  obtain rfl : l = k := Except.ok.inj ((hm.keyed _ hl).symm.trans hk)
  exact hm.distinct.lookup_of_mem hl

/-- A policy on record is the one that is described, if it can be found by the id, and by tenant and name,
and if what was described before, if anything, stood in its place. -/
theorem described_store (hid : p.id.truthy = true → p.id.asKey = .ok k) (hq : namesake tenantId p q = true)
    (hbefore : ∀ e, m.described tenantId p = .ok (some e) → ∀ l, (l, e) ∈ m.records → l = k) :
    (m.store k q).described tenantId p = .ok (some q) := by
  unfold described at hbefore ⊢
  split
  · next hp => exact get_ok.mpr ⟨k, hid hp, (lookup_store_self k q).symm⟩
  · next hp =>
    rw [if_neg hp, find?_ofTenant] at hbefore
    rw [find?_ofTenant]
    exact congrArg Except.ok (find?_replace hq fun e he => hbefore e (congrArg Except.ok he))

end MemoryStore

namespace Gate

section Steps

variable {s t : GateState} {m : MemoryStore Policy} {tenantId actor : Value} {source : PolicySource}
  {p q : Policy} {k : Key}

theorem returns_described (hs : Still m s) {o : Option Policy} :
    Returns (described tenantId p) s o t ↔ m.described tenantId p = .ok o ∧ t = s := by
  unfold described MemoryStore.described
  split
  · exact returns_find hs
  · unfold Returns
    rw [outcome_bind, outcome_ofTenant, show Shelf.policies.read s = .memory m from hs]
    change (Except.ok _, s) = _ ↔ _
    rw [Prod.mk.injEq]
    exact and_congr_right fun _ => eq_comm

/-- Applying a policy creates it if it describes none, and updates the one of the tenant that it describes. -/
theorem returns_applyPolicy (hs : Still m s) :
    Returns (applyPolicy tenantId source actor) s q t ↔ ∃ p, source.policy s.now = .ok p ∧
      (m.described tenantId p = .ok none ∧ Returns (createPolicy tenantId (.record p) actor) s q t ∨
        ∃ e, m.described tenantId p = .ok (some e) ∧ e.tenantId.same tenantId = true ∧
          Returns (updateWith e.id (.ok (.ofPolicy p)) actor) s q t) := by
  simp only [applyPolicy, liftM_eq_ofReading, returns_bind, returns_clock, returns_ofReading]
  constructor
  · rintro ⟨_, _, ⟨rfl, rfl⟩, p, _, ⟨hp, rfl⟩, o, _, hdescribed, h⟩
    obtain ⟨ho, rfl⟩ := (returns_described hs).mp hdescribed
    refine ⟨p, hp, ?_⟩
    cases o with
    | none => exact .inl ⟨ho, h⟩
    | some e =>
      dsimp only at h
      split at h
      · next htenant => exact .inr ⟨e, ho, htenant, h⟩
      · exact absurd h returns_throw
  · rintro ⟨p, hp, h⟩
    refine ⟨_, _, ⟨rfl, rfl⟩, p, _, ⟨hp, rfl⟩, ?_⟩
    rcases h with ⟨ho, h⟩ | ⟨e, ho, htenant, h⟩
    · exact ⟨none, s, (returns_described hs).mpr ⟨ho, rfl⟩, h⟩
    · refine ⟨some e, s, (returns_described hs).mpr ⟨ho, rfl⟩, ?_⟩
      dsimp only
      rwa [if_pos htenant]

/-- A policy on record is the one to which a policy was applied. -/
structure Applied (m : MemoryStore Policy) (tenantId : Value) (p q : Policy) (k : Key) : Prop where
  here : m.lookup k = some q
  describes : p.Describes q
  described : q.tenantId.same tenantId = true → m.described tenantId p = .ok (some q)
  told : q.id.isWritable = true
  unchanged : Apart (p.rules.map (·.name)) → (∀ c ∈ q.rules, c.SameDoc c) → Unchanged q.rules p.rules

theorem applied_of_created {createdBy : Value} {now : Timestamp} (h : p.Created tenantId createdBy now q)
    (hw : q.id.isWritable = true) (hk : MemoryStore.keyOf q = .ok k) (hnone : m.described tenantId p = .ok none) :
    Applied (m.store k q) tenantId p q k where
  here := MemoryStore.lookup_store_self k q
  describes := by
    rw [h.eq]
    exact ⟨rfl, rfl, rfl, rfl, rfl, rfl⟩
  described := by
    intro htenant
    obtain ⟨name, htext⟩ := Validation.name_of_check h.sound
    have hname : q.name = p.name := by rw [h.eq]
    refine MemoryStore.described_store (fun hp => ?_) (MemoryStore.namesake_of htenant hname htext) fun e he => ?_
    · rw [← h.id.kept hp]
      exact hk
    · rw [hnone] at he
      cases he
  told := hw
  unchanged hapart := hapart.unchanged (h.rules.imp fun r r' ⟨id, hid, hr'⟩ => ⟨id, hid.kept, hr'⟩)

theorem Updated.applied {current : Policy} {changed : Option (List Rule)} {now : Timestamp} {updatedBy : Value}
    (h : Updated p current updatedBy now changed q) (hm : Upheld m) (hk : m.lookup k = some current)
    (hw : current.id.isWritable = true) (hdescribed : m.described tenantId p = .ok (some current)) :
    Applied (m.store k q) tenantId p q k where
  here := MemoryStore.lookup_store_self k q
  describes := assembled_describes h.result
  described := by
    intro htenant
    have hname : q.name = p.name := (assembled_describes h.result).name
    obtain ⟨name, htext⟩ := Validation.name_of_check h.sound
    have hkey : ∀ l, (l, current) ∈ m.records → l = k := fun l hl =>
      Except.ok.inj ((hm.keyed _ hl).symm.trans (hm.keyed.lookup hk))
    refine MemoryStore.described_store (fun hp => ?_)
      (MemoryStore.namesake_of htenant hname (hname ▸ htext)) fun e he => ?_
    · rw [MemoryStore.described, if_pos hp] at hdescribed
      obtain ⟨l, hl, hcurrent⟩ := MemoryStore.get_ok.mp hdescribed
      rw [hl, hkey l (MemoryStore.mem_of_lookup hcurrent.symm)]
    · rw [hdescribed, Except.ok.injEq, Option.some.injEq] at he
      exact he ▸ hkey
  told := by rwa [(assembled_ok h.result).1.id]
  unchanged := by
    intro hapart hdocs
    have hrules : q.rules = changed.getD current.rules := (assembled_ok h.result).2
    cases changed with
    | none => exact hrules ▸ h.changes.kept rfl
    | some rs =>
      rw [hrules] at hdocs ⊢
      exact hapart.unchanged (h.changes.given rs rfl) hdocs

/-- Wherever a policy was applied, it is on record then. -/
theorem applied_of_returns (hs : Still m s) (hm : Upheld m)
    (h : Returns (applyPolicy tenantId source actor) s q t) :
    ∃ p m' k, source.policy s.now = .ok p ∧ Still m' t ∧ Upheld m' ∧ Applied m' tenantId p q k := by
  have hupheld : ∃ m', Still m' t ∧ Upheld m' := by
    have hends : Holding (Moves (fun _ => False) m) (outcome (applyPolicy tenantId source actor) s).2 :=
      ends_applyPolicy hm.keyed tenantId source actor s hs
    rw [show outcome (applyPolicy tenantId source actor) s = _ from h] at hends
    obtain ⟨m', hm', hmoves⟩ := hends
    exact ⟨m', hm', hmoves.upheld hm⟩
  have hsame : ∀ {m'}, Still m' t → Upheld m' := fun hm' => by
    obtain ⟨m'', hm'', hheld⟩ := hupheld
    rwa [← Store.memory.inj (hm''.symm.trans hm')]
  obtain ⟨p, hp, ⟨hnone, hcreate⟩ | ⟨e, he, -, hupdate⟩⟩ := (returns_applyPolicy hs).mp h
  · obtain ⟨hcreated, hw, k, hk, -, ht⟩ := of_returns_createPolicy hs hcreate
    exact ⟨p, _, k, hp, ht, hsame ht, applied_of_created hcreated hw hk hnone⟩
  · obtain ⟨hw, k, current, changed, hk, hcurrent, hupdated, ht⟩ := of_returns_updateWith hs hm hupdate
    obtain rfl : current = e := Option.some.inj (hcurrent.symm.trans (MemoryStore.lookup_of_described hm he hk))
    exact ⟨p, _, k, hp, ht, hsame ht, hupdated.applied hm hcurrent (hw _ List.mem_cons_self) he⟩

/-- A second application can only be an update of the policy on record, with the rules that it has, and it tells
of the version. -/
theorem unchanged_of_returns {p' : Policy} {later : Timestamp} (hs : Still m s) (hm : Upheld m)
    (happlied : Applied m tenantId p q k) (hp' : source.policy s.now = .ok p')
    (hsame : PolicyUpdate.ofPolicy p' = .ofPolicy p)
    (h : Returns (applyPolicy tenantId source actor) s { q with updatedAt := later } t) :
    q.tenantId.same tenantId = true ∧ Unchanged q.rules p.rules ∧ q.version.isWritable = true := by
  have hk : q.id.asKey = .ok k := hm.keyed.lookup happlied.here
  obtain ⟨p'', hp'', hcase⟩ := (returns_applyPolicy hs).mp h
  obtain rfl : p' = p'' := Except.ok.inj (hp'.symm.trans hp'')
  rcases hcase with ⟨-, hcreate⟩ | ⟨e, he, htenant, hupdate⟩
  · -- the id is taken
    obtain ⟨-, -, l, hl, hfree, -⟩ := of_returns_createPolicy hs hcreate
    obtain rfl : k = l := Except.ok.inj (hk.symm.trans hl)
    rw [happlied.here] at hfree
    cases hfree
  · obtain ⟨hw, l, current, changed, hl, hcurrent, hupdated, -⟩ := of_returns_updateWith hs hm hupdate
    obtain ⟨hrevised, -⟩ := assembled_ok hupdated.result
    obtain rfl : k = l := by
      have hid : q.id.asKey = .ok l := (congrArg Value.asKey hrevised.id).trans (hm.keyed.lookup hcurrent)
      exact Except.ok.inj (hk.symm.trans hid)
    obtain rfl : q = current := Option.some.inj (happlied.here.symm.trans hcurrent)
    obtain rfl : q = e := Option.some.inj (hcurrent.symm.trans (MemoryStore.lookup_of_described hm he hl))
    refine ⟨htenant, ?_, hw _ (List.mem_cons_of_mem _ List.mem_cons_self)⟩
    cases changed with
    | none => exact (PolicyUpdate.ofPolicy_inj hsame).2 ▸ hupdated.changes.kept rfl
    | some rs =>
      -- the change log would go on
      obtain ⟨change, hlog⟩ := assembled_logged hupdated.result
      have hlength := congrArg List.length hlog
      simp at hlength

/-- A second application whose rules stay as they are finds the policy on record, and changes its time. -/
theorem returns_again {p' : Policy} (hs : Still m s) (hm : Upheld m) (hl : s.logsEvents = false)
    (happlied : Applied m tenantId p q k) (hp' : source.policy s.now = .ok p') (hid : p'.id = p.id)
    (hsame : PolicyUpdate.ofPolicy p' = .ofPolicy p) (htenant : q.tenantId.same tenantId = true)
    (hu : Unchanged q.rules p.rules) (hv : q.version.isWritable = true) :
    ∃ t, Returns (applyPolicy tenantId source actor) s { q with updatedAt := s.now } t ∧
      Still (m.store k { q with updatedAt := s.now }) t := by
  have hw : Writable [q.id, q.version] := by simp [Writable, happlied.told, hv]
  obtain ⟨t, ht, hstill⟩ := returns_updateWith_again actor hs hm hl happlied.here happlied.describes hu hw
  refine ⟨t, (returns_applyPolicy hs).mpr ⟨p', hp', .inr ⟨q, ?_, htenant, hsame ▸ ht⟩⟩, hstill⟩
  rw [MemoryStore.described, hid, (PolicyUpdate.ofPolicy_inj hsame).1]
  exact happlied.described htenant

end Steps
end Gate

/-- **When applying a policy again changes nothing.** Say that requests lead to a gate where applying a
policy gives `q`, and that the documents of the rules of `q` equal themselves, as they do where no NaN stands in
them. Applying the policy once more, at any time and by anyone, then gives `q` but for the time of the update,
and no policy is added, just when `q` belongs to the tenant, its rules are unchanged under those of the policy,
which they are if names tell those apart, and its version can be written. -/
theorem apply_again_iff {allowed : Request → Prop} {s t : GateState} {tenantId actor : Value}
    {source : PolicySource} {q : Policy} (h : Reachable allowed s)
    (hr : Returns (applyPolicy tenantId source actor) s q t) :
    ∃ p m, source.policy s.now = .ok p ∧ t.policies = .memory m ∧
      ((∀ c ∈ q.rules, c.SameDoc c) →
        (Apart (p.rules.map (·.name)) → Unchanged q.rules p.rules) ∧
        ∀ later again,
          (∃ u m', Returns (applyPolicy tenantId source again) { t with now := later }
              { q with updatedAt := later } u ∧
            u.policies = .memory m' ∧ m'.records.map (·.1) = m.records.map (·.1)) ↔
          q.tenantId.same tenantId = true ∧ Unchanged q.rules p.rules ∧ q.version.isWritable = true) := by
  obtain ⟨m₀, hs, hm₀⟩ := h.upheld
  obtain ⟨p, m, k, hp, ht, hm, happlied⟩ := applied_of_returns hs hm₀ hr
  have hnumbered := ((numbered_law.keeps_applyPolicy tenantId source actor).returns h.numbered hr).1
  refine ⟨p, m, hp, ht, fun hdocs => ⟨fun hapart => happlied.unchanged hapart hdocs, fun later again => ?_⟩⟩
  obtain ⟨p', hp', hid, hsame⟩ := PolicySource.policy_later hp later
  have hlater : Still m { t with now := later } := ht
  constructor
  · rintro ⟨u, m', hu, -⟩
    exact unchanged_of_returns hlater hm happlied hp' hsame hu
  · rintro ⟨htenant, hu, hv⟩
    obtain ⟨u, hu, hstill⟩ := returns_again hlater hm hnumbered.unlogged happlied hp' hid hsame htenant hu hv
    exact ⟨u, _, hu, hstill, MemoryStore.keys_replace _ happlied.here⟩

section Sample

open Sample

/-- A policy of two rules without ids, which have different names. -/
def couple : Policy := policy "t" "" [rule "" (absent "x"), { rule "" (absent "y") with name := "q" }] []

/-- A policy of two rules without ids, which have the same name. -/
def twins : Policy := policy "t" "" [rule "" (absent "x"), rule "" (absent "y")] []

/-- What applying a policy to an empty gate gives. -/
def appliedTo (p : Policy) : Reading Policy × GateState := outcome (applyPolicy "t" (.record p) "u") gate

theorem gate_reachable : Reachable Request.ofService gate := .start moment {}

/-- A policy whose rules have different names is the same when it is applied again. -/
theorem apply_again_iff_couple :
    Reachable Request.ofService gate ∧ ∃ q t, Returns (applyPolicy "t" (.record couple) "u") gate q t ∧
      ∃ u, Returns (applyPolicy "t" (.record couple) "v") { t with now := moment }
        { q with updatedAt := moment } u := by
  obtain ⟨q, hq⟩ : ∃ q, (appliedTo couple).1 = .ok q := ⟨_, rfl⟩
  have hr : Returns (applyPolicy "t" (.record couple) "u") gate q (appliedTo couple).2 := Prod.ext hq rfl
  have hrules : q.rules = [rule (.str (Ids.textOf .rule 1)) (absent "x"),
      { rule (.str (Ids.textOf .rule 2)) (absent "y") with name := "q" }] := by
    cases hq
    rfl
  have hdocs : ∀ c ∈ q.rules, c.SameDoc c := by
    rw [hrules]
    simp only [List.forall_mem_cons, List.not_mem_nil, false_imp_iff, implies_true, and_true]
    exact ⟨⟨_, _, rfl, rfl, rfl⟩, ⟨_, _, rfl, rfl, rfl⟩⟩
  have hapart : Apart (couple.rules.map (·.name)) := by
    refine ⟨?_, ?_⟩
    · simp [couple, policy, rule]
    · simp [couple, policy, rule, Value.same, Scalar.same, Scalar.key]
  have htenant : q.tenantId.same "t" = true := by
    cases hq
    rfl
  have hversion : q.version.isWritable = true := by
    cases hq
    rfl
  obtain ⟨p, m, hp, hm, hagain⟩ := apply_again_iff gate_reachable hr
  obtain rfl : couple = p := Except.ok.inj hp
  obtain ⟨hunchanged, hiff⟩ := hagain hdocs
  obtain ⟨u, m', hu, -⟩ := (hiff moment "v").mpr ⟨htenant, hunchanged hapart, hversion⟩
  exact ⟨gate_reachable, q, _, hr, u, hu⟩

/-- Of two rules with one name, the first is given the id of the second when the policy is applied again: the
rules change, and with them the version. -/
theorem twins_changed_again :
    Reachable Request.ofService gate ∧ ∃ q t q' u, Returns (applyPolicy "t" (.record twins) "u") gate q t ∧
      Returns (applyPolicy "t" (.record twins) "u") t q' u ∧ q.version = "1.0.0" ∧ q'.version = "1.0.1" := by
  have hfirst : gives "1.0.0" (appliedTo twins).1 = true := by decide +kernel
  have hagain : gives "1.0.1" (outcome (applyPolicy "t" (.record twins) "u") (appliedTo twins).2).1 = true := by
    decide +kernel
  obtain ⟨q, hq, hversion⟩ := of_gives hfirst
  obtain ⟨q', hq', hversion'⟩ := of_gives hagain
  exact ⟨gate_reachable, q, _, q', _, returns_of_ok hq, returns_of_ok hq', hversion, hversion'⟩

end Sample

end SupplyGate
