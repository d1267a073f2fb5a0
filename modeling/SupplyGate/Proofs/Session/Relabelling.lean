import SupplyGate.Proofs.Policy.Reapplied
import SupplyGate.Proofs.Session.Effects

/-!
# What requests do to the ids of rules

Rules that come without ids get ids that no rule had before, or those of rules in the policy that they update. So
no two policies on record ever share the id of a rule (`RuleIds`), and an update keeps the ids of the rules whose
names it keeps (`KeepsIds`). The rules of one policy have different ids until an update has two rules for one of
the policy: both take the id of the last rule with their name (`Request.Confuses`).
-/

namespace SupplyGate

open Gate

/-! ## Ids on record -/

namespace MemoryStore

variable {m m' : MemoryStore Policy} {k : Key} {p q : Policy} {c n : Nat}

/-- The ids of the rules on record were given out, and no two policies share one. -/
structure RuleIds (n : Nat) (m : MemoryStore Policy) : Prop where
  labelled : ∀ {k p}, m.lookup k = some p → Labelled n p.rules
  apart : ∀ {k l p q}, m.lookup k = some p → m.lookup l = some q → k ≠ l →
    (p.rules.map (·.id)).Disjoint (q.rules.map (·.id))

theorem RuleIds.empty (n : Nat) : (MemoryStore.empty : MemoryStore Policy).RuleIds n where
  labelled h := by cases h
  apart h := by cases h

/-- The rules of each policy on record have different ids. -/
def Separate (m : MemoryStore Policy) : Prop := m.Every fun _ p => (p.rules.map (·.id)).Nodup

/-- The rules of the policy under a key, if there is one. -/
def rulesAt (m : MemoryStore Policy) (k : Key) : List Rule := ((m.lookup k).map (·.rules)).getD []

theorem rulesAt_of_lookup (h : m.lookup k = some p) : m.rulesAt k = p.rules := by rw [rulesAt, h]; rfl

theorem rulesAt_of_none (h : m.lookup k = none) : m.rulesAt k = [] := by rw [rulesAt, h]; rfl

/-- Every policy on record has the rules of one that was there before. -/
def KeepsRules (m m' : MemoryStore Policy) : Prop :=
  ∀ k q, m'.lookup k = some q → ∃ p, m.lookup k = some p ∧ q.rules = p.rules

theorem KeepsRules.refl (m : MemoryStore Policy) : m.KeepsRules m := fun _ q h => ⟨q, h, rfl⟩

/-- A policy is replaced by one with its rules. -/
theorem keepsRules_store (hp : m.lookup k = some p) (hq : q.rules = p.rules) : m.KeepsRules (m.store k q) := by
  intro l q' h
  by_cases hl : l = k
  · subst hl
    rw [lookup_store_self, Option.some.injEq] at h
    exact ⟨p, hp, h ▸ hq⟩
  · exact ⟨q', (lookup_store_ne hl q).symm.trans h, rfl⟩

theorem keepsRules_erase (m : MemoryStore Policy) (k : Key) : m.KeepsRules (m.erase k) := by
  intro l q h
  by_cases hl : l = k
  · rw [hl, lookup_erase_self] at h
    cases h
  · exact ⟨q, (lookup_erase_ne hl).symm.trans h, rfl⟩

theorem PartlySwept.keepsRules {now : Timestamp} (h : m.PartlySwept now m') (hm : m.Distinct) : m.KeepsRules m' := by
  intro k q hq
  obtain ⟨⟨_, p⟩, hp, he⟩ := exists_of_forall₂ h (k, q) (mem_of_lookup hq)
  rcases he with ⟨rfl, rfl⟩ | ⟨rfl, rfl⟩
  · exact ⟨q, hm.lookup_of_mem hp, rfl⟩
  · exact ⟨p, hm.lookup_of_mem hp, rfl⟩

theorem RuleIds.kept (h : m.RuleIds c) (hcn : c ≤ n) (hkeeps : m.KeepsRules m') : m'.RuleIds n where
  labelled := by
    intro k q hq r hr
    obtain ⟨p, hp, hrules⟩ := hkeeps k q hq
    obtain ⟨i, hi, hid⟩ := h.labelled hp r (hrules ▸ hr)
    exact ⟨i, hi.trans hcn, hid⟩
  apart := by
    intro k l q q' hq hq' hkl
    obtain ⟨p, hp, hrules⟩ := hkeeps k q hq
    obtain ⟨p', hp', hrules'⟩ := hkeeps l q' hq'
    rw [hrules, hrules']
    exact h.apart hp hp' hkl

theorem RuleIds.labelledAt (h : m.RuleIds c) (k : Key) : Labelled c (m.rulesAt k) := by
  cases hp : m.lookup k with
  | none => simp [rulesAt_of_none hp, Labelled]
  | some p => exact rulesAt_of_lookup hp ▸ h.labelled hp

theorem Separate.nodupAt (h : m.Separate) (k : Key) : ((m.rulesAt k).map (·.id)).Nodup := by
  cases hp : m.lookup k with
  | none => simp [rulesAt_of_none hp]
  | some p => exact rulesAt_of_lookup hp ▸ h.lookup hp

/-- The ids of a policy that is put in are those of rules in its place, or were not given out before. -/
theorem RuleIds.store (h : m.RuleIds c) (hcn : c ≤ n) (hlabels : Labelled n q.rules)
    (hdrawn : ∀ r' ∈ q.rules, (∃ r ∈ m.rulesAt k, r'.id = r.id) ∨ ∃ i, c < i ∧ r'.id = ruleId i) :
    (m.store k q).RuleIds n := by
  have hother : ∀ {l p}, m.lookup l = some p → l ≠ k → (q.rules.map (·.id)).Disjoint (p.rules.map (·.id)) := by
    intro l p hp hl v hv hv'
    obtain ⟨r', hr', rfl⟩ := List.mem_map.mp hv
    obtain ⟨r, hr, hid⟩ := List.mem_map.mp hv'
    rcases hdrawn r' hr' with ⟨r₀, hr₀, hid₀⟩ | ⟨i, hi, hid₀⟩
    · cases hp₀ : m.lookup k with
      | none => simp [rulesAt_of_none hp₀] at hr₀
      | some p₀ =>
        rw [rulesAt_of_lookup hp₀] at hr₀
        exact h.apart hp hp₀ hl (List.mem_map_of_mem hr) (hid ▸ hid₀ ▸ List.mem_map_of_mem hr₀)
    · exact id_ne_ruleId (h.labelled hp) hr hi (hid.trans hid₀)
  refine ⟨fun {l p} hp => ?_, fun {l l' p p'} hp hp' hl => ?_⟩
  · by_cases hlk : l = k
    · subst hlk
      obtain rfl : q = p := by simpa using hp
      exact hlabels
    · rw [lookup_store_ne hlk] at hp
      exact fun r hr => (h.labelled hp r hr).imp fun i hi => ⟨hi.1.trans hcn, hi.2⟩
  · by_cases hlk : l = k
    · subst hlk
      obtain rfl : q = p := by simpa using hp
      rw [lookup_store_ne hl.symm] at hp'
      exact hother hp' hl.symm
    · rw [lookup_store_ne hlk] at hp
      by_cases hlk' : l' = k
      · subst hlk'
        obtain rfl : q = p' := by simpa using hp'
        exact (hother hp hlk).symm
      · rw [lookup_store_ne hlk'] at hp'
        exact h.apart hp hp' hl

theorem Separate.kept (h : m.Separate) (hm' : m'.Distinct) (hkeeps : m.KeepsRules m') : m'.Separate := by
  rintro ⟨k, q⟩ hq
  obtain ⟨p, hp, hrules⟩ := hkeeps k q (hm'.lookup_of_mem hq)
  exact hrules ▸ h.lookup hp

theorem Separate.store_iff (h : m.Separate) (k : Key) (q : Policy) :
    (m.store k q).Separate ↔ (q.rules.map (·.id)).Nodup :=
  ⟨fun hs => hs.lookup (lookup_store_self k q), h.store⟩

end MemoryStore

/-! ## What requests do to rules -/

/-- The rules that the request comes with have no ids. -/
def Request.Unlabelled (now : Timestamp) (r : Request) : Prop := ∀ rules, r.Brings now rules → Bare rules

/-- Two rules of an update have the name of the same rule, the last one with it, of the policy that they update. -/
def Request.Confuses (now : Timestamp) (m : MemoryStore Policy) (r : Request) : Prop :=
  ∃ (k : Key) (u : PolicyUpdate) (rules : List Rule), r.Updates now m k u ∧ u.rules = some (rules.map .held) ∧
    ¬ (rules.filterMap fun r => lastNamed (m.rulesAt k) r.name).Nodup

/-- What a request does to the rules on record: they stay as they are, or the policy under one key gets rules with
ids beside those that were there. -/
inductive Request.Relabels (now : Timestamp) (c n : Nat) (m : MemoryStore Policy) (r : Request) :
    MemoryStore Policy → Prop where
  | kept {m' : MemoryStore Policy} (keeps : m.KeepsRules m') (quiet : ∀ k u, r.Updates now m k u → u.rules = none) :
      Relabels now c n m r m'
  | stored {k : Key} {q : Policy} {rules rs : List Rule} (brings : r.Brings now rules)
      (assigned : Assigned (m.rulesAt k) c rules rs n) (ids : rs.map (·.id) = q.rules.map (·.id))
      (only : ∀ l u, r.Updates now m l u → l = k ∧ u.rules = some (rules.map .held))
      (asked : m.rulesAt k = [] ∨ ∃ u, r.Updates now m k u) : Relabels now c n m r (m.store k q)

/-- Rules with equal documents have equal ids. -/
theorem Rule.SameDoc.id {r r' : Rule} (h : r.SameDoc r') : r.id.same r'.id = true := by
  obtain ⟨doc, doc', hr, hr', hs⟩ := h
  obtain ⟨severity, -, hr⟩ := Reading.bind_eq_ok.mp hr
  obtain ⟨metadata, -, hr⟩ := Reading.bind_eq_ok.mp hr
  obtain ⟨severity', -, hr'⟩ := Reading.bind_eq_ok.mp hr'
  obtain ⟨metadata', -, hr'⟩ := Reading.bind_eq_ok.mp hr'
  obtain rfl := Reading.pure_eq_ok.mp hr
  obtain rfl := Reading.pure_eq_ok.mp hr'
  simp only [Value.fields, Value.same, List.map_cons, List.map_nil, Value.sameEntries, Bool.and_eq_true] at hs
  simpa [findEntry, Scalar.same, Scalar.key] using hs.2.1

/-- Rules with equal documents have the same ids, if these were given out. -/
theorem Labelled.ids_eq {n n' : Nat} {rs rs' : List Rule} (h : Labelled n rs) (h' : Labelled n' rs')
    (hdocs : List.Forall₂ Rule.SameDoc rs rs') : rs.map (·.id) = rs'.map (·.id) := by
  induction hdocs with
  | nil => rfl
  | @cons r r' rs rs' hdoc _ ih =>
    obtain ⟨hr, hrs⟩ := List.forall_mem_cons.mp h
    obtain ⟨⟨j, -, hj⟩, hrs'⟩ := List.forall_mem_cons.mp h'
    have hid : r.id = r'.id := by
      have hsame := hdoc.id
      rw [hj] at hsame ⊢
      exact Value.eq_str_of_same hsame
    rw [List.map_cons, List.map_cons, hid, ih hrs hrs']

/-- What becomes of the rules of a policy that is updated. -/
theorem Policy.Renews.rules {p q : Policy} {u : PolicyUpdate} {now : Timestamp} {c n : Nat}
    (h : p.Renews u now c n q) (hlabels : Labelled c p.rules)
    (hbare : ∀ rules : List Rule, u.rules = some (rules.map .held) → Bare rules) :
    u.rules = none ∧ q.rules = p.rules ∨ ∃ rules rs, u.rules = some (rules.map .held) ∧
      Assigned p.rules c rules rs n ∧ rs.map (·.id) = q.rules.map (·.id) := by
  obtain ⟨changed, updatedBy, hq, hrenewal⟩ := h
  have hrules : q.rules = changed.getD p.rules := (assembled_ok hq).2
  rcases hrenewal with ⟨hnone, rfl, -⟩ | ⟨rules, rs, hu, hassigned, rfl | ⟨rfl, hdocs⟩⟩
  · exact .inl ⟨hnone, hrules⟩
  · exact .inr ⟨rules, rs, hu, hassigned, hrules ▸ rfl⟩
  · have hrs : Labelled n rs := hassigned.labelled hlabels (hbare rules hu) le_rfl
    exact .inr ⟨rules, rs, hu, hassigned, hrules ▸ hrs.ids_eq hlabels hdocs⟩

/-- Among some ids, rules have those of the last current rules with their names. -/
def KeepsIds (current rules : List Rule) (ids : List Value) : Prop :=
  List.Forall₂ (fun r id => ∀ c, lastNamed current r.name = some c → id = c.id) rules ids

theorem Assigned.keepsIds {current rules rs : List Rule} {k m n : Nat} (h : Assigned current m rules rs n)
    (hlabels : Labelled k current) (hbare : Bare rules) : KeepsIds current rules (rs.map (·.id)) := by
  have hkeeps : List.Forall₂ (fun r r' : Rule => r.id.truthy = false →
      ∀ c, lastNamed current r.name = some c → r'.id = c.id) rules rs := by
    refine Threaded.forall₂ h fun l r r' m one hr c hc => ?_
    obtain ⟨id, htakes, rfl⟩ := one
    rcases htakes.of_lacks hlabels hr with ⟨c', hc', rfl, -⟩ | ⟨hnone, -, -⟩
    · rw [Option.some.inj (hc'.symm.trans hc)]
    · rw [hnone] at hc
      cases hc
  refine List.forall₂_map_right_iff.mpr (((List.forall₂_and_left _ _).mpr ⟨hbare, hkeeps⟩).imp fun _ _ h => ?_)
  exact h.2 h.1

namespace Request

variable {now : Timestamp} {c n : Nat} {m m' : MemoryStore Policy} {r : Request}

theorem Spares.not_updates (h : r.Spares) {k : Key} {u : PolicyUpdate} : ¬ r.Updates now m k u := by
  intro hu
  cases r with
  | applyPolicy => exact h
  | updatePolicy => exact h
  | _ => exact hu

theorem Effect.relabels (h : r.Effect now c n m m') (hr : r.Unlabelled now) (hm : m.RuleIds c) (hd : m.Distinct) :
    r.Relabels now c n m m' := by
  cases h with
  | created brings new assigned keyed free =>
    refine .stored brings ?_ rfl (fun l u hu => absurd hu (new l u)) (.inl (MemoryStore.rulesAt_of_none free))
    rwa [MemoryStore.rulesAt_of_none free]
  | updated updates here renews =>
    rcases renews.rules (hm.labelled here) fun rules hu => hr rules (updates.brings hu) with
      ⟨hnone, hrules⟩ | ⟨rules, rs, hu, hassigned, hids⟩
    · refine .kept (MemoryStore.keepsRules_store here hrules) fun l u hl => ?_
      rwa [(hl.unique updates).2]
    · refine .stored (updates.brings hu) ?_ hids (fun l v hl => ?_) (.inr ⟨_, updates⟩)
      · rwa [MemoryStore.rulesAt_of_lookup here]
      · obtain ⟨rfl, rfl⟩ := hl.unique updates
        exact ⟨rfl, hu⟩
  | deleted named => exact .kept (MemoryStore.keepsRules_erase m _) fun _ _ => False.elim
  | granted named here list stands => exact .kept (MemoryStore.keepsRules_store here rfl) fun _ _ => False.elim
  | revoked named here list found => exact .kept (MemoryStore.keepsRules_store here rfl) fun _ _ => False.elim
  | expired => exact .kept ((MemoryStore.partlySwept_swept _ m).keepsRules hd) fun _ _ => False.elim
  | spared spares => exact .kept (.refl m) fun _ _ hu => absurd hu spares.not_updates

namespace Relabels

variable (h : r.Relabels now c n m m') (hr : r.Unlabelled now) (hm : m.RuleIds c)
include h hr hm

theorem ruleIds (hcn : c ≤ n) : m'.RuleIds n := by
  cases h with
  | kept keeps quiet => exact hm.kept hcn keeps
  | @stored k q rules rs brings assigned ids only asked =>
    have hbare := hr rules brings
    have hlabels := hm.labelledAt k
    have hids : ∀ r' ∈ q.rules, ∃ r ∈ rs, r.id = r'.id := fun r' hr' =>
      List.mem_map.mp (ids ▸ List.mem_map_of_mem hr')
    refine hm.store hcn (fun r' hr' => ?_) fun r' hr' => ?_
    · obtain ⟨r₀, hr₀, hid⟩ := hids r' hr'
      exact hid ▸ assigned.labelled hlabels hbare le_rfl r₀ hr₀
    · obtain ⟨r₀, hr₀, hid⟩ := hids r' hr'
      rcases (assigned.ids hlabels hbare).1 r₀ hr₀ with ⟨r₁, -, c', hc', hid'⟩ | ⟨i, hi, -, hid'⟩
      · exact .inl ⟨c', mem_of_lastNamed hc', hid.symm.trans hid'⟩
      · exact .inr ⟨i, hi, hid.symm.trans hid'⟩

/-- Where the rules of each policy have different ids, they do afterwards unless the request confuses rules. -/
theorem separate_iff (hs : m.Separate) (hd : m'.Distinct) : m'.Separate ↔ ¬ r.Confuses now m := by
  cases h with
  | kept keeps quiet =>
    refine iff_of_true (hs.kept hd keeps) ?_
    rintro ⟨k, u, rules, hu, hrules, -⟩
    rw [quiet k u hu] at hrules
    cases hrules
  | @stored k q rules rs brings assigned ids only asked =>
    rw [hs.store_iff, ← ids, assigned.nodup_iff (hm.labelledAt k) (hs.nodupAt k) (hr rules brings) le_rfl]
    constructor
    · rintro hnodup ⟨l, u, rules', hu, hrules, hconfused⟩
      obtain ⟨rfl, hrules'⟩ := only l u hu
      obtain rfl := Loose.map_held_inj (Option.some.inj (hrules'.symm.trans hrules))
      exact hconfused hnodup
    · intro hclear
      rcases asked with hnone | ⟨u, hu⟩
      · simp [hnone, lastNamed]
      · by_contra hconfused
        exact hclear ⟨k, u, rules, hu, (only k u hu).2, hconfused⟩

/-- An update keeps the ids of the rules whose names it keeps. -/
theorem keepsIds {k : Key} {u : PolicyUpdate} {rules : List Rule} (hu : r.Updates now m k u)
    (hrules : u.rules = some (rules.map .held)) :
    ∃ q, m'.lookup k = some q ∧ KeepsIds (m.rulesAt k) rules (q.rules.map (·.id)) := by
  cases h with
  | kept keeps quiet =>
    rw [quiet k u hu] at hrules
    cases hrules
  | @stored l q rules' rs brings assigned ids only asked =>
    obtain ⟨rfl, hrules'⟩ := only k u hu
    obtain rfl := Loose.map_held_inj (Option.some.inj (hrules'.symm.trans hrules))
    exact ⟨q, MemoryStore.lookup_store_self k q, ids ▸ assigned.keepsIds (hm.labelledAt k) (hr rules' brings)⟩

end Relabels

theorem not_confuses_of_apart (h : ∀ rules, r.Brings now rules → Apart (rules.map (·.name))) :
    ¬ r.Confuses now m := by
  rintro ⟨k, u, rules, hu, hrules, hconfused⟩
  have hapart := h rules (hu.brings hrules)
  refine hconfused (List.pairwise_filterMap.mpr ?_)
  refine (List.pairwise_map.mp hapart.distinct).imp_of_mem fun {r r'} hr hr' hne c hc c' hc' => ?_
  rintro rfl
  obtain ⟨l, hl⟩ := hapart.keys r.name (List.mem_map_of_mem hr)
  obtain ⟨l', hl'⟩ := hapart.keys r'.name (List.mem_map_of_mem hr')
  have hsame := List.find?_some hc
  have hsame' := List.find?_some hc'
  rw [hl] at hsame hne
  rw [hl'] at hsame' hne
  -- both names equal that of the current rule, hence each other
  obtain ⟨j, hj, hjl⟩ := Value.scalar_of_same hsame
  rw [hj, Value.same] at hsame'
  rw [Value.same, Scalar.same_of_same hsame' hjl] at hne
  cases hne

theorem Remains.keepsRules (h : r.Remains now m m') (hd : m.Distinct) : m.KeepsRules m' := by
  cases r with
  | expireExceptions at? => exact MemoryStore.PartlySwept.keepsRules h hd
  | _ =>
    obtain rfl : m' = m := h
    exact .refl m'

/-- **What a request whose rules have no ids does to the ids on record**, whether it writes or is refused before. -/
theorem relabels {s : GateState} (hs : Still m s) (hm : Upheld m) (hl : s.logsEvents = false)
    (hids : m.RuleIds (s.ids.count .rule)) (hr : r.Unlabelled s.now) :
    ∃ m', Still m' (outcome r.run s).2 ∧ m'.RuleIds ((outcome r.run s).2.ids.count .rule) ∧
      (m.Separate → (m'.Separate ↔ (r.writes s = true → ¬ r.Confuses s.now m))) ∧
      (r.writes s = true → ∀ k u rules, r.Updates s.now m k u → u.rules = some (rules.map .held) →
        ∃ q, m'.lookup k = some q ∧ KeepsIds (m.rulesAt k) rules (q.rules.map (·.id))) := by
  obtain ⟨hreturns, hfails⟩ := r.settles hs hm hl s rfl
  obtain ⟨m₁, hs₁, hm₁, -⟩ := r.moves hm hs
  unfold Request.writes
  have hends := r.tells s hl
  rcases ho : outcome r.written s with ⟨f | u, t⟩ <;> rw [ho] at hends
  · obtain ⟨m', ht, hcn, hremains⟩ := hends.follows_iff.mpr (hfails f t ho)
    obtain rfl : m₁ = m' := Store.memory.inj (hs₁.symm.trans ht)
    have hkeeps := hremains.keepsRules hm.distinct
    exact ⟨m₁, ht, hids.kept hcn hkeeps, fun hsep => iff_of_true (hsep.kept hm₁.distinct hkeeps) nofun, nofun⟩
  · obtain ⟨m', ht, hcn, heffect⟩ := hends.follows_iff.mpr (hreturns u t ho)
    obtain rfl : m₁ = m' := Store.memory.inj (hs₁.symm.trans ht)
    have hrelabels := heffect.relabels hr hids hm.distinct
    refine ⟨m₁, ht, hrelabels.ruleIds hr hids hcn, fun hsep => ?_, fun _ k u rules hu hrules => ?_⟩
    · rw [hrelabels.separate_iff hr hids hsep hm₁.distinct]
      exact ⟨fun h _ => h, fun h => h rfl⟩
    · exact hrelabels.keepsIds hr hids hu hrules

end Request

end SupplyGate
