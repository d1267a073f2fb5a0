import SupplyGate.Proofs.Session.Policies

/-!
# Creations and updates that return

What a creation or an update by another policy has done where it returned: it was asked for a valid policy,
and the policies on record are those before with one added or put in its place. Of an update the rules are
followed in both directions: rules that leave the current ones as they are take no ids and change nothing
(`returns_unchanged`), and where an update finds no change they do (`yields_changes`).
-/

namespace SupplyGate

namespace Gate

section Steps

variable {s t : GateState} {m : MemoryStore Policy} {tenantId actor : Value} {p q : Policy} {k : Key}
  {current : List Rule}

/-! ## Rules of an update -/

theorem yields_keptRuleId_identified (hids : ∀ c ∈ current, c.id.truthy = true) (r : Rule) :
    Yields (Still m) (keptRuleId current r) (r.Identified current) := by
  unfold keptRuleId
  split
  · next hr => exact .pure ⟨fun _ => rfl, .inl (by rw [Rule.Keeps, if_pos hr])⟩
  · next hr =>
    refine Yields.bind (F := fun _ => True) (.map keeps_ofReading fun _ _ => trivial) fun _ _ => ?_
    split
    · next c hc =>
      refine (yields_orFresh (still_runLaw m).toRoutine .rule c.id).mono fun id hid => ?_
      have htruthy := hids c (List.mem_reverse.mp (List.mem_of_find?_eq_some hc))
      refine ⟨fun h => absurd h hr, .inl ?_⟩
      rw [Rule.Keeps, if_neg hr]
      exact ⟨c, hc, hid.kept htruthy⟩
    · next hnone =>
      have hno : ∀ c ∈ current, c.name.same r.name = false := fun c hc => by
        simpa using List.find?_eq_none.mp hnone c (List.mem_reverse.mpr hc)
      exact ((still_runLaw m).keeps_fresh .rule).mono fun _ _ => ⟨fun h => absurd h hr, .inr hno⟩

/-- What an update by rules finds out: they leave the current ones as they are, or take their place with the
ids that they were given. -/
structure Changes (current rules : List Rule) (changed : Option (List Rule)) : Prop where
  kept : changed = none → Unchanged current rules
  given : ∀ rs, changed = some rs → RulesUnder Rule.Given rules rs

theorem yields_changes (hids : ∀ c ∈ current, c.id.truthy = true) (rules : List Rule) :
    Yields (Still m) (changedRules current (some (rules.map .held))) (Changes current rules) := by
  have hknown := fun r => yields_keptRuleId_identified (m := m) hids r
  refine (yields_changedRules_some hknown _).mono fun changed h => ?_
  obtain ⟨hnames, rs, hrs, hchanged⟩ := h
  have hunder : RulesUnder (Rule.Identified current) rules rs := by
    refine (List.forall₂_map_left_iff.mp hrs).imp fun r r' h => ?_
    obtain ⟨_, id, ⟨rfl⟩, hid, hr'⟩ := h
    exact ⟨id, hid, hr'⟩
  rcases hchanged with rfl | ⟨rfl, hdocs⟩
  · refine ⟨nofun, ?_⟩
    rintro _ ⟨⟩
    exact hunder.imp fun r r' ⟨id, hid, hr'⟩ => ⟨id, hid.given, hr'⟩
  · exact ⟨fun _ => unchanged_of_identified hnames hunder hdocs, nofun⟩

/-- A rule with the document of a current one keeps an id, and none is taken. -/
theorem returns_keptRuleId {r c : Rule} {id : Value} (hids : ∀ c ∈ current, c.id.truthy = true)
    (hnames : ∀ c ∈ current, ∃ k, c.name = .scalar k) (hid : r.Keeps current id) (hc : c ∈ current)
    (hdoc : Rule.SameDoc { r with id := id } c) : Returns (keptRuleId current r) s id s := by
  unfold keptRuleId
  unfold Rule.Keeps at hid
  split
  · next hr =>
    rw [if_pos hr] at hid
    exact returns_pure.mpr ⟨hid, rfl⟩
  · next hr =>
    rw [if_neg hr] at hid
    obtain ⟨d, hd, rfl⟩ := hid
    obtain ⟨l, hl, -⟩ := hdoc.scalar_name (hnames c hc)
    have hdtruthy := hids d (List.mem_reverse.mp (List.mem_of_find?_eq_some hd))
    rw [hd, show r.name = .scalar l from hl]
    refine returns_bind.mpr ⟨⟨⟩, s, rfl, ?_⟩
    change Returns (orFresh .rule d.id) s d.id s
    rw [orFresh, if_pos hdtruthy]
    exact returns_pure.mpr ⟨rfl, rfl⟩

theorem returns_identified (hids : ∀ c ∈ current, c.id.truthy = true)
    (hnames : ∀ c ∈ current, ∃ k, c.name = .scalar k) : ∀ {rules cs : List Rule}, cs ⊆ current →
      List.Forall₂ (fun r c => ∃ id, r.Keeps current id ∧ Rule.SameDoc { r with id := id } c) rules cs →
        ∃ rs, Returns (identified current (rules.map .held)) s rs s ∧ List.Forall₂ Rule.SameDoc rs cs
  | _, _, _, .nil => ⟨[], rfl, .nil⟩
  | r :: rules, c :: cs, hsub, .cons hr hrest => by
    obtain ⟨id, hid, hdoc⟩ := hr
    obtain ⟨hc, hcs⟩ := List.cons_subset.mp hsub
    obtain ⟨rs, hrs, hdocs⟩ := returns_identified hids hnames hcs hrest
    have hone := returns_keptRuleId (s := s) hids hnames hid hc hdoc
    refine ⟨{ r with id := id } :: rs, returns_mapM_cons.mpr ⟨_, s, rs, ?_, hrs, rfl⟩, .cons hdoc hdocs⟩
    exact returns_bind.mpr ⟨r, s, rfl, returns_bind.mpr ⟨id, s, hone, rfl⟩⟩

/-- Rules that leave the current ones as they are change nothing. -/
theorem returns_unchanged {rules : List Rule} (hids : ∀ c ∈ current, c.id.truthy = true)
    (h : Unchanged current rules) : Returns (changedRules current (some (rules.map .held))) s none s := by
  obtain ⟨rs, hrs, hdocs⟩ := returns_identified (s := s) hids h.names (List.Subset.refl _) h.rules
  obtain ⟨after, before, hafter, hbefore, hsame⟩ := sameItems_docs_iff.mpr hdocs
  obtain ⟨ks, hks⟩ := exists_mapM_ok (f := fun c : Rule => c.name.asScalar) fun c hc =>
    Value.asScalar_ok_iff.mpr (h.names c hc)
  refine returns_bind.mpr ⟨⟨⟩, s, ?_, returns_bind.mpr ⟨rs, s, hrs, ?_⟩⟩
  · unfold Returns
    simp only [liftM_eq_ofReading, ofReading_mapM]
    rw [outcome_discard, outcome_ofReading, hks]
    rfl
  · simp only [ofReading_mapM]
    refine returns_bind.mpr ⟨after, s, returns_ofReading.mpr ⟨hafter, rfl⟩, ?_⟩
    refine returns_bind.mpr ⟨before, s, returns_ofReading.mpr ⟨hbefore, rfl⟩, ?_⟩
    exact returns_pure.mpr ⟨by rw [if_pos hsame], rfl⟩

/-! ## Creating and updating -/

theorem returns_find (hs : Still m s) {id : Value} {o : Option Policy} :
    Returns (find .policies id) s o t ↔ m.get id = .ok o ∧ t = s := by
  unfold Returns
  rw [outcome_find, show Shelf.policies.read s = .memory m from hs, Prod.mk.injEq]
  exact and_congr_right fun _ => eq_comm

theorem returns_getPolicy (hs : Still m s) {id : Value} :
    Returns (getPolicy id) s p t ↔ m.get id = .ok (some p) ∧ t = s := by
  simp only [getPolicy, returns_bind, returns_find hs]
  constructor
  · rintro ⟨o, _, ⟨ho, rfl⟩, h⟩
    cases o with
    | none => exact absurd h returns_throw
    | some p' =>
      obtain ⟨rfl, rfl⟩ := returns_pure.mp h
      exact ⟨ho, rfl⟩
  · rintro ⟨ho, rfl⟩
    exact ⟨some p, t, ⟨ho, rfl⟩, rfl⟩

/-- A policy is entered under a free key. -/
theorem of_returns_enterPolicy {asked : Policy} (hs : Still m s)
    (h : Returns (enterPolicy tenantId (.record asked) actor) s q t) :
    asked.Created tenantId actor s.now q ∧
      ∃ k, MemoryStore.keyOf q = .ok k ∧ m.lookup k = none ∧ Still (m.store k q) t := by
  simp only [enterPolicy, liftM_eq_ofReading] at h
  obtain ⟨now, s₁, hclock, h⟩ := returns_bind.mp h
  obtain ⟨rfl, rfl⟩ := returns_clock.mp hclock
  obtain ⟨p, s₂, hread, h⟩ := returns_bind.mp h
  obtain ⟨hp, rfl⟩ := returns_ofReading.mp hread
  obtain rfl := Except.ok.inj hp
  obtain ⟨_, s₃, hcheck, h⟩ := returns_bind.mp h
  obtain ⟨hsound, rfl⟩ := returns_ofReading.mp hcheck
  obtain ⟨id, s₄, hfresh, h⟩ := returns_bind.mp h
  obtain ⟨hs₄, hid⟩ := (yields_orFresh (still_runLaw m).toRoutine .policy asked.id).returns hs hfresh
  obtain ⟨rules, s₅, hmapM, h⟩ := returns_bind.mp h
  obtain ⟨hs₅, hrules⟩ := (Yields.mapM fun r _ => yields_withRuleId r).returns hs₄ hmapM
  obtain ⟨_, s₆, hadd, h⟩ := returns_bind.mp h
  obtain ⟨rfl, rfl⟩ := returns_pure.mp h
  refine ⟨⟨hsound, hid, hrules, rfl⟩, ?_⟩
  obtain ⟨t, ht, rfl⟩ := (returns_add _).mp hadd
  rw [show Shelf.policies.read s₅ = .memory m from hs₅] at ht
  obtain ⟨m', hm', rfl⟩ := Store.add_memory.mp ht
  obtain ⟨k, hk, hfree, rfl⟩ := MemoryStore.add_ok.mp hm'
  exact ⟨k, hk, hfree, rfl⟩

/-- What a creation returns was entered, and its id could be told of. -/
theorem of_returns_createPolicy {asked : Policy} (hs : Still m s)
    (h : Returns (createPolicy tenantId (.record asked) actor) s q t) :
    asked.Created tenantId actor s.now q ∧ q.id.isWritable = true ∧
      ∃ k, MemoryStore.keyOf q = .ok k ∧ m.lookup k = none ∧ Still (m.store k q) t := by
  obtain ⟨stored, s₁, henter, h₁⟩ := returns_bind.mp h
  obtain ⟨hcreated, k, hk, hfree, hstored⟩ := of_returns_enterPolicy hs henter
  obtain ⟨_, s₂, hlog, h₂⟩ := returns_bind.mp h₁
  obtain ⟨hwritable, rfl⟩ := returns_logValues.mp hlog
  obtain ⟨_, s₃, hpublish, h₃⟩ := returns_bind.mp h₂
  obtain ⟨rfl, rfl⟩ := returns_pure.mp h₃
  have htold := (((still_runLaw _).keeps_publish _).returns hstored hpublish).1
  exact ⟨hcreated, hwritable _ List.mem_cons_self, k, hk, hfree, htold⟩

/-- A policy on record after an update by another policy. -/
structure Updated (asked : Policy) (current : Policy) (updatedBy : Value) (now : Timestamp)
    (changed : Option (List Rule)) (q : Policy) : Prop where
  changes : Changes current.rules asked.rules changed
  result : assembled current (.ofPolicy asked) changed now updatedBy = .ok q
  sound : Validation.check q = .ok ()

/-- A policy is renewed in the place of the one with an id, by a revision of it. -/
theorem of_returns_renewPolicy {asked : Policy} {id : Value} (hs : Still m s) (hm : Upheld m)
    (h : Returns (renewPolicy id (.ok (.ofPolicy asked)) actor) s q t) :
    ∃ k current changed, id.asKey = .ok k ∧ m.lookup k = some current ∧
      Updated asked current actor s.now changed q ∧ Still (m.store k q) t := by
  simp only [renewPolicy, updated_eq, liftM_eq_ofReading] at h
  obtain ⟨current, s₁, hget, h₁⟩ := returns_bind.mp h
  obtain ⟨hcurrent, rfl⟩ := (returns_getPolicy hs).mp hget
  obtain ⟨k, hk, hcurrent⟩ := MemoryStore.get_ok.mp hcurrent
  obtain ⟨u, s₂, hread, h₂⟩ := returns_bind.mp h₁
  obtain ⟨hu, rfl⟩ := returns_ofReading.mp hread
  obtain rfl := Except.ok.inj hu
  obtain ⟨now, s₃, hclock, h₃⟩ := returns_bind.mp h₂
  obtain ⟨rfl, rfl⟩ := returns_clock.mp hclock
  obtain ⟨next, s₄, hupdate, h₄⟩ := returns_bind.mp h₃
  obtain ⟨changed, s₅, hchange, hassemble⟩ := returns_bind.mp hupdate
  have hids := (hm.valid.lookup hcurrent.symm).rules
  obtain ⟨hs₅, hchanges⟩ := (yields_changes hids asked.rules).returns hs hchange
  obtain ⟨hresult, rfl⟩ := returns_ofReading.mp hassemble
  obtain ⟨_, s₆, hcheck, h₅⟩ := returns_bind.mp h₄
  obtain ⟨hsound, rfl⟩ := returns_ofReading.mp hcheck
  obtain ⟨_, s₇, hkeep, h₆⟩ := returns_bind.mp h₅
  obtain ⟨rfl, rfl⟩ := returns_pure.mp h₆
  refine ⟨k, current, changed, hk, hcurrent.symm, ⟨hchanges, hresult, hsound⟩, ?_⟩
  have hends := ends_keep hm.keyed hcurrent.symm (assembled_ok hresult).1.id _ hs₅
  rwa [show outcome (keep .policies q) _ = _ from hkeep] at hends

/-- What an update returns took the place of a policy, and its id and version could be told of. -/
theorem of_returns_updateWith {asked : Policy} {id : Value} (hs : Still m s) (hm : Upheld m)
    (h : Returns (updateWith id (.ok (.ofPolicy asked)) actor) s q t) :
    Writable [id, q.version] ∧ ∃ k current changed, id.asKey = .ok k ∧ m.lookup k = some current ∧
      Updated asked current actor s.now changed q ∧ Still (m.store k q) t := by
  obtain ⟨next, s₁, hrenew, h₁⟩ := returns_bind.mp h
  obtain ⟨k, current, changed, hk, hcurrent, hupdated, hstored⟩ := of_returns_renewPolicy hs hm hrenew
  obtain ⟨_, s₂, hlog, h₂⟩ := returns_bind.mp h₁
  obtain ⟨hwritable, rfl⟩ := returns_logValues.mp hlog
  obtain ⟨_, s₃, hpublish, h₃⟩ := returns_bind.mp h₂
  obtain ⟨rfl, rfl⟩ := returns_pure.mp h₃
  have htold := (((still_runLaw _).keeps_publish _).returns hstored hpublish).1
  exact ⟨hwritable, k, current, changed, hk, hcurrent, hupdated, htold⟩

/-- An update by a policy that leaves the rules of its own result as they are changes nothing but the time, if
the id and the version can be told of. -/
theorem returns_updateWith_again {asked : Policy} (updatedBy : Value) (hs : Still m s) (hm : Upheld m)
    (hl : s.logsEvents = false) (hq : m.lookup k = some q) (hd : asked.Describes q)
    (hu : Unchanged q.rules asked.rules) (hw : Writable [q.id, q.version]) :
    ∃ t, Returns (updateWith q.id (.ok (.ofPolicy asked)) updatedBy) s { q with updatedAt := s.now } t ∧
      Still (m.store k { q with updatedAt := s.now }) t := by
  have hk : q.id.asKey = .ok k := hm.keyed.lookup hq
  have hvalid := hm.valid.lookup hq
  have hsound : Validation.check { q with updatedAt := s.now } = .ok () := Validation.check_ok.mpr hvalid.problems
  have hput : (Shelf.policies.read s).put { q with updatedAt := s.now } =
      .ok (.memory (m.store k { q with updatedAt := s.now })) := by
    rw [show Shelf.policies.read s = .memory m from hs]
    exact Store.put_memory.mpr ⟨_, MemoryStore.put_ok.mpr ⟨k, hk, rfl⟩, rfl⟩
  let stored := Shelf.policies.write s (.memory (m.store k { q with updatedAt := s.now }))
  let told := Event.policyUpdated q.tenantId q.id q.version updatedBy
  refine ⟨{ stored with events := stored.events ++ [told] }, ?_, rfl⟩
  have hget : m.get q.id = .ok (some q) := MemoryStore.get_ok.mpr ⟨k, hk, hq.symm⟩
  have hrenew : Returns (renewPolicy q.id (.ok (.ofPolicy asked)) updatedBy) s { q with updatedAt := s.now } stored := by
    simp only [renewPolicy, updated_eq, liftM_eq_ofReading]
    refine returns_bind.mpr ⟨q, s, (returns_getPolicy hs).mpr ⟨hget, rfl⟩, ?_⟩
    refine returns_bind.mpr ⟨_, s, returns_ofReading.mpr ⟨rfl, rfl⟩, ?_⟩
    refine returns_bind.mpr ⟨s.now, s, returns_clock.mpr ⟨rfl, rfl⟩, ?_⟩
    refine returns_bind.mpr ⟨{ q with updatedAt := s.now }, s, ?_, ?_⟩
    · refine returns_bind.mpr ⟨none, s, returns_unchanged hvalid.rules hu, ?_⟩
      exact returns_ofReading.mpr ⟨assembled_again hd, rfl⟩
    · refine returns_bind.mpr ⟨⟨⟩, s, returns_ofReading.mpr ⟨hsound, rfl⟩, ?_⟩
      exact returns_bind.mpr ⟨⟨⟩, stored, (returns_keep _).mpr ⟨_, hput, rfl⟩, rfl⟩
  refine returns_bind.mpr ⟨_, stored, hrenew, returns_bind.mpr ⟨⟨⟩, stored, returns_logValues.mpr ⟨hw, rfl⟩, ?_⟩⟩
  exact returns_bind.mpr ⟨⟨⟩, _, outcome_publish_unlogged told hl, rfl⟩

end Steps

end Gate

end SupplyGate
