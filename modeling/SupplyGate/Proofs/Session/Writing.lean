import SupplyGate.Proofs.Gate.Settling
import SupplyGate.Proofs.Policy.RuleIds
import SupplyGate.Proofs.Policy.Trail
import SupplyGate.Proofs.Session.Ensuring
import SupplyGate.Proofs.Session.Expiry

/-!
# What operations write

Each operation on policies puts one policy in, takes one out, or writes nothing; and where it is refused it
has only taken ids. The lemmas here say what is written where the operation returns: which ids the rules of
the policy have, and which exceptions. Expiring exceptions goes from policy to policy, so where it fails some
of them were swept.
-/

namespace SupplyGate

/-- What becomes of the rules that an update asks for, if it does: they are given ids, and take the place of the
current ones unless they have the documents of these. -/
def Renewal (current : List Rule) (asked : Option (List (Loose Rule))) (c n : Nat) (changed : Option (List Rule)) : Prop :=
  asked = none ∧ changed = none ∧ n = c ∨ ∃ rules rs, asked = some (rules.map .held) ∧ Assigned current c rules rs n ∧
    (changed = some rs ∨ changed = none ∧ List.Forall₂ Rule.SameDoc rs current)

theorem Renewal.le {current : List Rule} {asked : Option (List (Loose Rule))} {c n : Nat} {changed : Option (List Rule)}
    (h : Renewal current asked c n changed) : c ≤ n := by
  obtain ⟨-, -, rfl⟩ | ⟨rules, rs, -, hassigned, -⟩ := h
  · exact le_rfl
  · exact hassigned.le

/-- Two lists of rules were compared by their documents. -/
def Compared (rs current : List Rule) (same : Bool) : Prop :=
  ∃ after before, rs.mapM Rule.toDoc = .ok after ∧ current.mapM Rule.toDoc = .ok before ∧
    Value.sameItems after before = same

/-- How the rules that an update asks for are weighed against the current ones: they are given ids, and change the
current ones where their documents differ. -/
inductive Weighed (current : List Rule) : Option (List (Loose Rule)) → Nat → Nat → Option (List Rule) → Prop where
  | unasked {c : Nat} : Weighed current none c c none
  | changed {rules rs : List Rule} {c n : Nat} (assigned : Assigned current c rules rs n)
    (differ : Compared rs current false) : Weighed current (some (rules.map .held)) c n (some rs)
  | same {rules rs : List Rule} {c n : Nat} (assigned : Assigned current c rules rs n)
    (same : Compared rs current true) : Weighed current (some (rules.map .held)) c n none

theorem Weighed.renewal {current : List Rule} {asked : Option (List (Loose Rule))} {c n : Nat}
    {changed : Option (List Rule)} (h : Weighed current asked c n changed) : Renewal current asked c n changed := by
  cases h with
  | unasked => exact .inl ⟨rfl, rfl, rfl⟩
  | @changed rules rs _ _ hassigned => exact .inr ⟨rules, rs, rfl, hassigned, .inl rfl⟩
  | @same rules rs _ _ hassigned hsame => exact .inr ⟨rules, rs, rfl, hassigned, .inr ⟨rfl, sameItems_docs_iff.mp hsame⟩⟩

/-- The policy after an update at a time: new rules get their ids beside those of the policy. -/
def Policy.Renews (p : Policy) (u : PolicyUpdate) (now : Timestamp) (c n : Nat) (q : Policy) : Prop :=
  ∃ changed updatedBy, Gate.assembled p u changed now updatedBy = .ok q ∧ Renewal p.rules u.rules c n changed

theorem Policy.Renews.le {p q : Policy} {u : PolicyUpdate} {now : Timestamp} {c n : Nat} (h : p.Renews u now c n q) :
    c ≤ n := by
  obtain ⟨changed, updatedBy, -, hrenewal⟩ := h
  exact hrenewal.le

/-- A policy with the id of one on record has its key. -/
theorem Keyed.of_id {m : MemoryStore Policy} {k : Key} {p q : Policy} (h : Keyed m) (hp : m.lookup k = some p)
    (hid : q.id = p.id) : MemoryStore.keyOf q = .ok k :=
  (congrArg Value.asKey hid).trans (h.lookup hp)

/-- The policies of a store are those of another one, some of them swept. -/
def MemoryStore.PartlySwept (now : Timestamp) (m m' : MemoryStore Policy) : Prop :=
  List.Forall₂ (fun e e' => e' = e ∨ e' = (e.1, e.2.swept now)) m.records m'.records

theorem MemoryStore.partlySwept_swept (now : Timestamp) (m : MemoryStore Policy) : m.PartlySwept now (m.swept now) :=
  List.forall₂_map_right_iff.mpr (List.forall₂_same.mpr fun _ _ => .inr rfl)

theorem MemoryStore.lookup_swept (now : Timestamp) (m : MemoryStore Policy) (k : Key) :
    (m.swept now).lookup k = (m.lookup k).map (Policy.swept now) := by
  unfold lookup swept
  induction m.records with
  | nil => rfl
  | cons e records ih =>
    rw [List.map_cons, List.lookup_cons, List.lookup_cons, ih]
    split <;> rfl

theorem MemoryStore.PartlySwept.lookup {now : Timestamp} {m m' : MemoryStore Policy} (h : m.PartlySwept now m')
    {k : Key} {p : Policy} (hp : m.lookup k = some p) : ∃ q, m'.lookup k = some q ∧ (q = p ∨ q = p.swept now) := by
  unfold PartlySwept at h
  unfold MemoryStore.lookup at hp ⊢
  generalize m.records = records at h hp
  generalize m'.records = records' at h ⊢
  induction h with
  | nil => cases hp
  | @cons e e' records records' he _ ih =>
    have hkey : e'.1 = e.1 := by
      rcases he with rfl | rfl <;> rfl
    rw [List.lookup_cons] at hp ⊢
    rw [hkey]
    split at hp
    · obtain rfl := Option.some.inj hp
      exact ⟨e'.2, rfl, he.imp (congrArg Prod.snd) (congrArg Prod.snd)⟩
    · exact ih hp

namespace Gate

section Steps

variable {α β : Type} {s t : GateState} {m : MemoryStore Policy} {c n : Nat} {E : GateState → Prop}

/-- From a state in which ids were taken, with so many of rules: -/
def Taken (s : GateState) (n : Nat) (t : GateState) : Prop := Took s t ∧ t.ids.count .rule = n

theorem Taken.took (h : Taken s n t) : Took s t := h.1

/-- From a state in which ids were taken and the policies of a store are on record, with so many ids of rules: -/
structure Stands (s : GateState) (m : MemoryStore Policy) (n : Nat) (t : GateState) : Prop where
  eq : t = { s with ids := t.ids, policies := .memory m }
  rules : t.ids.count .rule = n

theorem Stands.policies (h : Stands s m n t) : Still m t := by
  rw [Still, h.eq]

theorem Stands.events (h : Stands s m n t) : t.events = s.events := by
  rw [h.eq]

theorem Taken.bump (h : Taken s n t) {kind : IdKind} (hk : kind ≠ .rule) :
    Taken s n { t with ids := t.ids.bump kind } := by
  refine ⟨h.1.bump kind, ?_⟩
  have hcount := Ids.count_bump t.ids kind .rule
  rw [if_neg hk] at hcount
  exact hcount.trans h.2

theorem Taken.bump_rule (h : Taken s n t) : Taken s (n + 1) { t with ids := t.ids.bump .rule } := by
  refine ⟨h.1.bump .rule, ?_⟩
  have hcount := Ids.count_bump t.ids .rule .rule
  rw [if_pos rfl, h.2] at hcount
  exact hcount

theorem Settles.mapM {At : Nat → GateState → Prop} {f : α → Gate β} {T : Nat → α → β → Nat → Prop}
    (hf : ∀ a n, Settles (At n) (f a) (fun b t => ∃ n', At n' t ∧ T n a b n') E) : ∀ (as : List α) (n : Nat),
    Settles (At n) (as.mapM f) (fun bs t => ∃ n', At n' t ∧ Threaded T n as bs n') E
  | [], n => .pure fun _ hs => ⟨n, hs, .nil⟩
  | a :: as, n => by
    rw [List.mapM_cons]
    refine (hf a n).bind fun b => .of_exists fun n' => .of_and fun hb => ?_
    refine (Settles.mapM hf as n').bind fun bs => .of_exists fun n'' => .of_and fun hbs => ?_
    exact .pure fun _ hs => ⟨n'', hs, .cons hb hbs⟩

theorem yields_clock (s : GateState) : Yields (Taken s n) clock (· = s.now) := by
  intro t ht
  refine ⟨ht, fun now hnow => ?_⟩
  rw [outcome_clock, Except.ok.injEq] at hnow
  rw [← hnow, ht.1.eq]

theorem settles_fresh_rule :
    Settles (Taken s n) (fresh .rule) (fun id t => Taken s (n + 1) t ∧ id = ruleId (n + 1)) E :=
  .of_outcome fun t ht => ⟨_, _, returns_fresh .rule t, ht.bump_rule, congrArg ruleId ht.bump_rule.2⟩

/-! ## Ids of rules -/

theorem settles_withRuleId (r : Rule) (n : Nat) :
    Settles (Taken s n) (withRuleId r)
      (fun r' t => ∃ n', Taken s n' t ∧ ∃ id, r.Takes [] n id n' ∧ r' = { r with id := id }) E := by
  unfold withRuleId orFresh
  split
  · next hr => exact .pure fun _ ht => ⟨n, ht, r.id, .own hr, rfl⟩
  · next hr =>
    have hlacks : r.id.truthy = false := by simpa using hr
    refine settles_fresh_rule.bind fun id => .pure ?_
    rintro t ⟨ht, rfl⟩
    exact ⟨n + 1, ht, _, .next hlacks (by simp [lastNamed]), rfl⟩

theorem settles_keptRuleId (current : List Rule) (r : Rule) (n : Nat) :
    Settles (Taken s n) (keptRuleId current r) (fun id t => ∃ n', Taken s n' t ∧ r.Takes current n id n') (Took s) := by
  unfold keptRuleId
  split
  · next hr => exact .pure fun _ ht => ⟨n, ht, .own hr⟩
  · next hr =>
    have hlacks : r.id.truthy = false := by simpa using hr
    refine .after (F := fun _ => True) (.map keeps_ofReading fun _ _ => trivial) (fun _ => Taken.took) ?_
    intro _ _
    have hnext : (∀ c, lastNamed current r.name = some c → c.id.truthy = false) →
        Settles (Taken s n) (fresh .rule) (fun id t => ∃ n', Taken s n' t ∧ r.Takes current n id n') (Took s) :=
      fun hnone => settles_fresh_rule.mono (fun id t ⟨ht, hid⟩ => ⟨n + 1, ht, hid ▸ .next hlacks hnone⟩) fun _ h => h
    split
    · next c hc =>
      unfold orFresh
      split
      · next hkept => exact .pure fun _ ht => ⟨n, ht, .named hlacks hc hkept⟩
      · next hkept =>
        refine hnext fun d hd => ?_
        obtain rfl : c = d := Option.some.inj (hc.symm.trans hd)
        simpa using hkept
    · next hc => exact hnext fun c hd => nomatch hc.symm.trans hd

theorem settles_templateRule (edits : List (String × List RuleEdit)) (r : Rule) (n : Nat) :
    Settles (Taken s n) (templateRule edits r)
      (fun r' t => ∃ n', Taken s n' t ∧ r'.id = ruleId n' ∧ n' = n + 1) (Took s) := by
  refine settles_fresh_rule.bind fun id => .of_and fun hid => ?_
  refine .after (F := fun _ => True) keeps_ofReading (fun _ => Taken.took) fun r' _ => ?_
  exact .pure fun _ ht => ⟨n + 1, ht, hid, rfl⟩

/-- The rules of an update are given their ids one after the other. -/
theorem settles_identified (current : List Rule) (asked : List (Loose Rule)) (n : Nat) :
    Settles (Taken s n) (identified current asked) (fun rs t => ∃ n', Taken s n' t ∧
      ∃ rules, asked = rules.map .held ∧ Assigned current n rules rs n') (Took s) := by
  have hone : ∀ (l : Loose Rule) n, Settles (Taken s n)
      (do let r ← l.part "id"; return { r with id := ← keptRuleId current r } : Gate Rule)
      (fun r' t => ∃ n', Taken s n' t ∧ ∃ r id, l = .held r ∧ r.Takes current n id n' ∧ r' = { r with id := id }) (Took s) := by
    intro l n
    refine .after (F := fun r => l = .held r) (.ofReading fun r hr => Loose.part_eq_ok.mp hr) (fun _ => Taken.took) fun r hr => ?_
    refine (settles_keptRuleId current r n).bind fun id => .of_exists fun n' => .of_and fun htakes => ?_
    exact .pure fun _ ht => ⟨n', ht, r, id, hr, htakes, rfl⟩
  exact (Settles.mapM hone asked n).mono (fun rs t ⟨n', ht, hrs⟩ => ⟨n', ht, assigned_of_held hrs⟩) fun _ h => h

theorem settles_changedRules_weighed (current : List Rule) (asked : Option (List (Loose Rule))) (n : Nat) :
    Settles (Taken s n) (changedRules current asked)
      (fun changed t => ∃ n', Taken s n' t ∧ Weighed current asked n n' changed) (Took s) := by
  cases asked with
  | none => exact .pure fun _ ht => ⟨n, ht, .unasked⟩
  | some asked =>
    refine .after (F := fun _ => True) (.map (Keeps.mapM fun _ _ => keeps_ofReading) fun _ _ => trivial) (fun _ => Taken.took) ?_
    intro _ _
    refine (settles_identified current asked n).bind fun rs => .of_exists fun n' => .of_and fun hrs => ?_
    obtain ⟨rules, rfl, hassigned⟩ := hrs
    simp only [ofReading_mapM]
    refine .after (.ofReading fun _ h => h) (fun _ => Taken.took) fun after hafter => ?_
    refine .after (.ofReading fun _ h => h) (fun _ => Taken.took) fun before hbefore => .pure fun _ ht => ⟨n', ht, ?_⟩
    split
    · next hsame => exact .same hassigned ⟨after, before, hafter, hbefore, hsame⟩
    · next hdiffer => exact .changed hassigned ⟨after, before, hafter, hbefore, by simpa using hdiffer⟩

theorem settles_changedRules (current : List Rule) (asked : Option (List (Loose Rule))) (n : Nat) :
    Settles (Taken s n) (changedRules current asked)
      (fun changed t => ∃ n', Taken s n' t ∧ Renewal current asked n n' changed) (Took s) :=
  (settles_changedRules_weighed current asked n).mono (fun _ _ ⟨n', ht, hweighed⟩ => ⟨n', ht, hweighed.renewal⟩)
    fun _ ht => ht

/-! ## Writing -/

variable (hs : Still m s)
include hs

theorem Taken.still (h : Taken s n t) : Still m t := by
  unfold Still
  rw [h.1.eq]
  exact hs

omit hs in
theorem Taken.stands (h : Taken s n t) (m' : MemoryStore Policy) : Stands s m' n { t with policies := .memory m' } where
  eq := by rw [h.1.eq]
  rules := h.2

theorem settles_add (p : Policy) : Settles (Taken s n) (add .policies p) (fun _ t => ∃ k,
    Stands s (m.store k p) n t ∧ MemoryStore.keyOf p = .ok k ∧ m.lookup k = none) (Took s) := by
  intro t ht
  have hread : Shelf.policies.read t = .memory m := ht.still hs
  refine ⟨fun _ u hu => ?_, fun f u hu => ?_⟩
  · obtain ⟨P, hP, rfl⟩ := (returns_add _).mp hu
    rw [hread] at hP
    obtain ⟨m', hm', rfl⟩ := Store.add_memory.mp hP
    obtain ⟨k, hk, hfree, rfl⟩ := MemoryStore.add_ok.mp hm'
    exact ⟨k, ht.stands _, hk, hfree⟩
  · rw [Fails, outcome_add] at hu
    split at hu
    · cases hu
    · cases hu
      exact ht.1

theorem settles_keep {k : Key} {p : Policy} (hk : MemoryStore.keyOf p = .ok k) :
    Settles (Taken s n) (keep .policies p) (fun _ t => Stands s (m.store k p) n t) E := by
  refine .of_outcome fun t ht => ?_
  have hput : (Store.memory m).put p = .ok (.memory (m.store k p)) :=
    Store.put_memory.mpr ⟨_, MemoryStore.put_ok.mpr ⟨k, hk, rfl⟩, rfl⟩
  have hkept : outcome (keep .policies p) t = (.ok (), { t with policies := .memory (m.store k p) }) := by
    rw [outcome_keep, show Shelf.policies.read t = .memory m from ht.still hs, hput]
    rfl
  exact ⟨_, _, hkept, ht.stands _⟩

/-! ## Creating -/

/-- A policy stands where none stood, and its rules are those that were asked for, with ids. -/
def Placed (s : GateState) (m : MemoryStore Policy) (c : Nat) (rules : List Rule) (p : Policy) (t : GateState) : Prop :=
  ∃ k n, Stands s (m.store k p) n t ∧ Assigned [] c rules p.rules n ∧ MemoryStore.keyOf p = .ok k ∧ m.lookup k = none

omit hs in
theorem Placed.events {rules : List Rule} {p : Policy} (h : Placed s m c rules p t) : t.events = s.events := by
  obtain ⟨k, n, ht, -⟩ := h
  exact ht.events

theorem settles_enterPolicy (tenantId : Value) (source : PolicySource) (createdBy : Value) :
    Settles (Taken s c) (enterPolicy tenantId source createdBy) (fun p t => ∃ asked,
      Placed s m c asked.rules p t ∧ source.policy s.now = .ok asked) (Took s) := by
  refine .after (yields_clock s) (fun _ => Taken.took) fun now hnow => ?_
  subst hnow
  refine .after (.ofReading fun _ h => h) (fun _ => Taken.took) fun asked hasked => ?_
  refine .after (F := fun _ => True) keeps_ofReading (fun _ => Taken.took) fun _ _ => ?_
  refine .after (yields_orFresh_of (fun _ h => h.bump (by decide)) asked.id) (fun _ => Taken.took) fun id _ => ?_
  refine (Settles.mapM settles_withRuleId asked.rules c).bind fun rules => .of_exists fun n => .of_and fun hrules => ?_
  refine (settles_add hs _).bind fun _ => .of_exists fun k => .of_and fun ⟨hk, hfree⟩ => ?_
  exact .pure fun t ht => ⟨asked, ⟨k, n, ht, hrules, hk, hfree⟩, hasked⟩

omit hs in
/-- The rules of a template are given new ids. -/
theorem settles_draftFromTemplate (tenantId templateId : Value) (choice : TemplateChoice) (createdBy : Value) :
    Settles (Taken s c) (draftFromTemplate tenantId templateId choice createdBy) (fun p t => ∃ n, Taken s n t ∧
      ∃ bare, Bare bare ∧ Assigned [] c bare p.rules n ∧ ∀ r ∈ p.rules, r.id.truthy = true) (Took s) := by
  refine .after (PolicyWork.keeps_getTemplate templateId) (fun _ => Taken.took) fun template _ => ?_
  refine .after (yields_clock s) (fun _ => Taken.took) fun now _ => ?_
  refine (Settles.mapM (settles_templateRule _) template.rules c).bind fun rules => ?_
  refine .of_exists fun n => .of_and fun hrules => ?_
  refine .after (yields_orFresh_of (fun _ h => h.bump (by decide)) _) (fun _ => Taken.took) fun id _ => ?_
  have htruthy : ∀ r ∈ rules, r.id.truthy = true := by
    intro r hr
    have hids : List.Forall₂ (fun _ r' => ∃ i, r'.id = ruleId i) template.rules rules :=
      hrules.forall₂ fun _ _ _ n h => ⟨n, h.1⟩
    obtain ⟨_, -, i, hi⟩ := exists_of_forall₂ hids r hr
    rw [hi, truthy_ruleId]
  obtain ⟨bare, hbare, hassigned⟩ := assigned_of_next hrules
  dsimp only
  split
  · exact .pure fun t ht => ⟨n, ht, bare, hbare, hassigned, htruthy⟩
  · exact .after keeps_throw (fun _ => Taken.took) fun _ _ => .pure fun t ht => ⟨n, ht, bare, hbare, hassigned, htruthy⟩

/-- Draft a policy from a template, and store it. -/
def enterFromTemplate (tenantId templateId : Value) (choice : TemplateChoice) (createdBy : Value) : Gate Policy := do
  let p ← draftFromTemplate tenantId templateId choice createdBy
  enterPolicy tenantId (.record p) createdBy

theorem settles_enterFromTemplate (tenantId templateId : Value) (choice : TemplateChoice) (createdBy : Value) :
    Settles (Taken s c) (enterFromTemplate tenantId templateId choice createdBy) (fun p t => ∃ bare,
      Placed s m c bare p t ∧ Bare bare) (Took s) := by
  refine (settles_draftFromTemplate tenantId templateId choice createdBy).bind fun p => .of_exists fun n => .of_and ?_
  rintro ⟨bare, hbare, hassigned, htruthy⟩
  refine (settles_enterPolicy hs tenantId (.record p) createdBy).mono (fun q t h => ?_) fun _ h => h
  obtain ⟨asked, ⟨k, n', ht, hassigned', hk, hfree⟩, hasked⟩ := h
  obtain rfl : p = asked := Except.ok.inj hasked
  obtain ⟨hsame, rfl⟩ := hassigned'.of_truthy htruthy
  exact ⟨bare, ⟨k, n', ht, hsame ▸ hassigned, hk, hfree⟩, hbare⟩

/-! ## Updating and deleting -/

theorem yields_described (tenantId : Value) (p : Policy) :
    Yields (Taken s n) (described tenantId p) fun o => m.described tenantId p = .ok o := by
  have hkeeps : Keeps (Taken s n) (described tenantId p) := by
    unfold described
    split
    · exact (yields_find_policy_of (fun _ ht => ht.still hs) _).keeps
    · refine Keeps.bind (fun t ht => ?_) fun _ => keeps_pure
      rw [outcome_ofTenant]
      exact ⟨ht, fun _ _ => trivial⟩
  exact fun t ht => ⟨(hkeeps t ht).1, fun o ho => ((returns_described (ht.still hs)).mp (Prod.ext ho rfl)).1⟩

variable (hkeyed : Keyed m)
include hkeyed

theorem settles_renewPolicy (policyId : Value) (update : Reading PolicyUpdate) (updatedBy : Value) :
    Settles (Taken s c) (renewPolicy policyId update updatedBy) (fun q t => ∃ k n, Stands s (m.store k q) n t ∧
      policyId.asKey = .ok k ∧ ∃ p u, update = .ok u ∧ m.lookup k = some p ∧ p.Renews u s.now c n q) (Took s) := by
  refine .after (yields_getPolicy_of (fun _ ht => ht.still hs) _) (fun _ => Taken.took) fun p hp => ?_
  obtain ⟨k, hk, hp⟩ := hp
  refine .after (.ofReading fun _ h => h) (fun _ => Taken.took) fun u hu => ?_
  refine .after (yields_clock s) (fun _ => Taken.took) fun now hnow => ?_
  subst hnow
  rw [updated_eq, bind_assoc]
  refine (settles_changedRules p.rules u.rules c).bind fun changed => .of_exists fun n => ?_
  refine .of_and fun hchanged => ?_
  refine .after (.ofReading fun _ h => h) (fun _ => Taken.took) fun q hq => ?_
  refine .after (F := fun _ => True) keeps_ofReading (fun _ => Taken.took) fun _ _ => ?_
  refine (settles_keep hs (hkeyed.of_id hp (assembled_ok hq).1.id)).bind fun _ => ?_
  exact .pure fun t ht => ⟨k, n, ht, hk, p, u, hu, hp, changed, updatedBy, hq, hchanged⟩

omit hkeyed in
theorem settles_dropPolicy (policyId : Value) :
    Settles (Taken s c) (dropPolicy policyId)
      (fun _ t => ∃ k, Stands s (m.erase k) c t ∧ policyId.asKey = .ok k) (Took s) := by
  refine .after (yields_getPolicy_of (fun _ ht => ht.still hs) _) (fun _ => Taken.took) fun p hp => ?_
  obtain ⟨k, hk, hp⟩ := hp
  have hdelete : (Store.memory m).delete policyId = .ok (true, .memory (m.erase k)) := by
    have hfound : m.delete policyId = .ok (true, m.erase k) := by
      simp [MemoryStore.delete, hk, hp, bind, Except.bind, pure, Except.pure]
    change (do let (found, m') ← m.delete policyId; return (found, Store.memory m') : Reading _) = _
    rw [hfound]
    rfl
  have hremove : Settles (Taken s c) (remove .policies policyId) (fun _ t => Stands s (m.erase k) c t) (Took s) := by
    refine .of_outcome fun t ht => ?_
    have hremoved : outcome (remove .policies policyId) t = (.ok (), { t with policies := .memory (m.erase k) }) := by
      rw [outcome_remove, show Shelf.policies.read t = .memory m from ht.still hs, hdelete]
      rfl
    exact ⟨_, _, hremoved, ht.stands _⟩
  exact hremove.bind fun _ => .pure fun t ht => ⟨k, ht, hk⟩

/-! ## Exceptions -/

/-- Other exceptions are put in. -/
theorem settles_keepExceptions {k : Key} {p : Policy} (hp : m.lookup k = some p)
    (exceptions : Loose (List (Loose PolicyException))) (updatedAt : Timestamp) :
    Settles (Taken s n) (keep .policies { p with exceptions, updatedAt })
      (fun _ t => Stands s (m.store k { p with exceptions, updatedAt }) n t) E := by
  have hid : { p with exceptions, updatedAt }.id = p.id := rfl
  exact settles_keep hs (hkeyed.of_id hp hid)

theorem settles_enterException (policyId : Value) (e : PolicyException) :
    Settles (Taken s c) (enterException policyId e) (fun _ t => ∃ k p ls id,
      Stands s (m.store k { p with exceptions := .held (ls ++ [.held { e with id := id }]), updatedAt := s.now }) c t ∧
        policyId.asKey = .ok k ∧ m.lookup k = some p ∧ p.exceptions = .held ls ∧ StandsFor e.id id) (Took s) := by
  refine .after (yields_getPolicy_of (fun _ ht => ht.still hs) _) (fun _ => Taken.took) fun p hp => ?_
  obtain ⟨k, hk, hp⟩ := hp
  split
  · refine .after (F := fun _ => True) keeps_ofReading (fun _ => Taken.took) fun _ _ => ?_
    refine .after (F := fun _ => True) keeps_ofReading (fun _ => Taken.took) fun _ _ => ?_
    exact .after (F := fun _ => False) .throw (fun _ => Taken.took) fun _ => False.elim
  · refine .after (yields_orFresh_of (fun _ h => h.bump (by decide)) e.id) (fun _ => Taken.took) fun id hid => ?_
    refine .after (.ofReading fun _ h => moreExceptions_ok h) (fun _ => Taken.took) fun _ hmore => ?_
    obtain ⟨ls, hls, rfl⟩ := hmore
    refine .after (yields_clock s) (fun _ => Taken.took) fun now hnow => ?_
    subst hnow
    refine (settles_keepExceptions hs hkeyed hp _ _).bind fun _ => .pure fun t ht => ?_
    exact ⟨k, p, ls, id, ht, hk, hp, hls, hid⟩

variable (hl : s.logsEvents = false)
include hl

theorem settles_revokeException (policyId exceptionId revokedBy : Value) :
    Settles (Taken s c) (revokeException policyId exceptionId revokedBy) (fun _ t => ∃ k p es e u event,
      Stands s (m.store k { p with exceptions := .held ((revokedIn exceptionId e es).map .held), updatedAt := s.now }) c u ∧
        t = { u with events := u.events ++ [event] } ∧ policyId.asKey = .ok k ∧ m.lookup k = some p ∧
          p.exceptions = .held (es.map .held) ∧ es.find? (fun l => l.id.same exceptionId) = some e) (Took s) := by
  refine .after (yields_getPolicy_of (fun _ ht => ht.still hs) _) (fun _ => Taken.took) fun p hp => ?_
  obtain ⟨k, hk, hp⟩ := hp
  refine .after (.ofReading fun _ h => h) (fun _ => Taken.took) fun ls hls => ?_
  refine .after (F := fun o => exceptionWithId exceptionId ls = .ok o) (.ofReading fun _ h => h) (fun _ => Taken.took) ?_
  intro found hfound
  cases found with
  | none => exact .throw fun _ => Taken.took
  | some e =>
    refine .after (.ofReading fun _ h => revokedEach_ok h) (fun _ => Taken.took) fun _ hrevoked => ?_
    obtain ⟨es, rfl, rfl⟩ := hrevoked
    rw [exceptionWithId_held, Except.ok.injEq] at hfound
    refine .after (yields_clock s) (fun _ => Taken.took) fun now hnow => ?_
    subst hnow
    refine (settles_keepExceptions hs hkeyed hp _ _).bind fun _ => settles_publish_return (fun u hu => ?_) fun u hu => ?_
    · rw [hu.eq]
      exact hl
    · exact ⟨k, p, es, e, u, _, hu, rfl, hk, hp, exceptions_of_exceptionList hls hfound, hfound⟩

end Steps

/-! ## Expiring -/

section Expiring

variable {s t : GateState} {m : MemoryStore Policy} {p : Policy} {k : Key} {now : Timestamp} {f : Fault}

/-- A policy whose exceptions cannot be expired is left alone. -/
theorem fails_expireIn (hs : Still m s) (hk : MemoryStore.keyOf p = .ok k) (hp : m.lookup k = some p)
    (h : Fails (expireIn now p) s f t) : t = s ∧ ¬ p.Expires now := by
  refine ⟨?_, fun hexpires => ?_⟩
  · rcases fails_bind.mp h with hlist | ⟨ls, s₁, hlist, hrest⟩
    · exact (keeps_ofReading (I := (· = s))).fails rfl hlist
    obtain ⟨hread, rfl⟩ := returns_ofReading.mp hlist
    rcases fails_bind.mp hrest with heach | ⟨rs, s₂, heach, -⟩
    · exact (keeps_ofReading (I := (· = s₁))).fails rfl heach
    obtain ⟨es, rfl, hes, -⟩ := expireEach_ok_iff.mp (returns_ofReading.mp heach).1
    -- otherwise all of them can be
    rw [Fails, outcome_expireIn hs hk hp ⟨es, hread, hes⟩] at h
    cases h
  · rw [Fails, outcome_expireIn hs hk hp hexpires] at h
    cases h

/-- Where expiring the exceptions of one policy after the other fails, it has swept those before the first one
whose exceptions cannot be expired. -/
theorem fails_expireEach : ∀ {rest done : List (Key × Policy)} {m : MemoryStore Policy} {s : GateState},
    Still m s → m.Distinct → Keyed m → m.records = done ++ rest →
      Fails ((rest.map (·.2)).mapM (expireIn now)) s f t →
        ∃ before e after, rest = before ++ e :: after ∧ (∀ e ∈ before, e.2.Expires now) ∧ ¬ e.2.Expires now ∧
          t = { s with policies := .memory { m with
            records := done ++ (before.map (fun (k, p) => (k, p.swept now)) ++ e :: after) } }
  | [], _, _, _, _, _, _, _, h => by cases h
  | (k, p) :: rest, done, m, s, hs, hdistinct, hkeyed, hrecords, h => by
    have hmem : (k, p) ∈ m.records := by simp [hrecords]
    have hstore : (m.store k (p.swept now)).records = (done ++ [(k, p.swept now)]) ++ rest := by
      rw [hdistinct.store_eq hrecords, List.append_cons]
    rw [List.map_cons, List.mapM_cons] at h
    rcases fails_bind.mp h with h | ⟨count, u, hone, h⟩
    · obtain ⟨hsame, hstuck⟩ := fails_expireIn hs (hkeyed (k, p) hmem) (hdistinct.lookup_of_mem hmem) h
      refine ⟨[], (k, p), rest, rfl, by simp, hstuck, ?_⟩
      rw [hsame, List.map_nil, List.nil_append, ← hrecords, ← show s.policies = .memory m from hs]
    · obtain ⟨hexpires, -, rfl⟩ := (returns_expireIn hs (hkeyed (k, p) hmem) (hdistinct.lookup_of_mem hmem)).mp hone
      rcases fails_bind.mp h with h | ⟨counts, v, -, h⟩
      · have hu : Still (m.store k (p.swept now)) { s with policies := .memory (m.store k (p.swept now)) } := rfl
        have hkeyed' : Keyed (m.store k (p.swept now)) := hkeyed.store (hkeyed (k, p) hmem)
        obtain ⟨before, e, after, rfl, hbefore, hstuck, rfl⟩ :=
          fails_expireEach hu (hdistinct.store k (p.swept now)) hkeyed' hstore h
        refine ⟨(k, p) :: before, e, after, rfl, List.forall_mem_cons.mpr ⟨hexpires, hbefore⟩, hstuck, ?_⟩
        simp [MemoryStore.store]
      · cases h

theorem outcome_expireExceptions (at? : Option Timestamp) (hs : Still m s) :
    outcome (expireExceptions at?) s = outcome (do
      return (← m.all.mapM (expireIn (at?.getD s.now))).foldl (· + ·) 0) s := by
  have hall : outcome (all .policies) s = (.ok m.all, s) := by
    rw [outcome_all, show Shelf.policies.read s = .memory m from hs]
    rfl
  unfold expireExceptions
  rw [outcome_bind_ok (outcome_clock s), outcome_bind_ok hall]

/-- Where expiring exceptions fails, the policies before the first one whose exceptions cannot be expired were
swept. -/
theorem fails_expireExceptions (hs : Still m s) (hdistinct : m.Distinct) (hkeyed : Keyed m) {at? : Option Timestamp}
    (h : Fails (expireExceptions at?) s f t) :
    ∃ before e after, m.records = before ++ e :: after ∧ (∀ e ∈ before, e.2.Expires (at?.getD s.now)) ∧
      ¬ e.2.Expires (at?.getD s.now) ∧
      t = { s with policies := .memory { m with
        records := before.map (fun (k, p) => (k, p.swept (at?.getD s.now))) ++ e :: after } } := by
  rw [Fails, outcome_expireExceptions at? hs] at h
  rcases fails_bind.mp h with heach | ⟨_, _, _, hend⟩
  · exact fails_expireEach hs hdistinct hkeyed (List.nil_append _).symm heach
  · cases hend

/-- Where expiring exceptions fails, some of the policies on record were swept. -/
theorem settles_expireExceptions (hs : Still m s) (hdistinct : m.Distinct) (hkeyed : Keyed m) (at? : Option Timestamp) :
    Settles (· = s) (expireExceptions at?) (fun _ t => t = { s with policies := .memory (m.swept (at?.getD s.now)) })
      (fun t => ∃ m', t = { s with policies := .memory m' } ∧ m.PartlySwept (at?.getD s.now) m') := by
  rintro _ rfl
  refine ⟨fun count t ht => ?_, fun f t hf => ?_⟩
  · rw [Returns, outcome_expireExceptions at? hs] at ht
    obtain ⟨counts, u, heach, hend⟩ := returns_bind.mp ht
    obtain ⟨rfl, rfl⟩ := returns_pure.mp hend
    exact ((returns_expireEach hs hdistinct hkeyed (List.nil_append _).symm).mp heach).2.2
  · obtain ⟨before, e, after, hrecords, -, -, rfl⟩ := fails_expireExceptions hs hdistinct hkeyed hf
    refine ⟨_, rfl, ?_⟩
    rw [MemoryStore.PartlySwept, hrecords]
    refine List.rel_append ?_ (List.forall₂_same.mpr fun _ _ => .inl rfl)
    exact List.forall₂_map_right_iff.mpr (List.forall₂_same.mpr fun _ _ => .inr rfl)

end Expiring

end Gate

open Gate

/-! ## What requests tell of -/

namespace Request

/-- What a request writes, with the values that the program's log tells of it. Where the writing is not told of apart,
this is all that the request does. -/
def written : Request → Gate (List Value)
  | createPolicy tenantId source createdBy => do
    let p ← enterPolicy tenantId source createdBy
    return [p.id, p.name, tenantId]
  | createFromTemplate tenantId templateId choice createdBy => do
    let p ← enterFromTemplate tenantId templateId choice createdBy
    return [p.id, p.name, tenantId]
  | ensureTemplate tenantId templateId createdBy => do
    let id ← templatePolicyId tenantId templateId
    match ← find .policies id with
    | some _ => return []
    | none => do
      let p ← enterFromTemplate tenantId templateId { TemplateChoice.standard with policyId := id } createdBy
      return [p.id, p.name, tenantId]
  | applyPolicy tenantId source appliedBy => do
    let p ← source.policy (← clock)
    match ← described tenantId p with
    | none => do
      let stored ← enterPolicy tenantId (.record p) appliedBy
      return [stored.id, stored.name, tenantId]
    | some existing =>
      if existing.tenantId.same tenantId then do
        let next ← renewPolicy existing.id (.ok (.ofPolicy p)) appliedBy
        return [existing.id, next.version]
      else throw (.naming .foreignPolicy existing.id)
  | updatePolicy policyId updates updatedBy => do
    let next ← renewPolicy policyId (PolicyUpdate.ofDoc updates) updatedBy
    return [policyId, next.version]
  | deletePolicy policyId => do
    let _ ← dropPolicy policyId
    return [policyId]
  | addException policyId e => do
    let (_, granted) ← enterException policyId e
    return [granted.id, granted.dependency, policyId]
  | resolve violationId resolution resolvedBy => do
    let now ← clock
    let _ ← storeMoved violationId .resolved fun v => { v with resolution, resolvedBy, resolvedAt := some now }
    return [violationId, resolvedBy]
  | acknowledge violationId acknowledgedBy assignedTo => do
    let _ ← storeMoved violationId .acknowledged fun v => { v with assignedTo := assignedTo.orElse acknowledgedBy }
    return [violationId, acknowledgedBy]
  | suppress violationId reason suppressedBy => do
    let _ ← storeMoved violationId .suppressed fun v => { v with resolution := reason }
    return [violationId, suppressedBy]
  | markFalsePositive violationId reason markedBy => do
    let now ← clock
    let _ ← storeMoved violationId .falsePositive fun v =>
      { v with resolution := reason, resolvedBy := markedBy, resolvedAt := some now }
    return [violationId, markedBy]
  | r => do
    r.run
    return []

section Written

variable {m : MemoryStore Policy} {s : GateState} {c : Nat} (hs : Still m s)
include hs

theorem settles_written_ensureTemplate (tenantId templateId createdBy : Value) :
    Settles (Taken s c) (ensureTemplate tenantId templateId createdBy).written (fun _ t => Taken s c t ∨ ∃ bare p,
      Placed s m c bare p t ∧ Bare bare) (Took s) := by
  refine .after (F := fun _ => True) keeps_ofReading (fun _ => Taken.took) fun id _ => ?_
  refine .after (yields_find_policy_of (fun _ ht => ht.still hs) _) (fun _ => Taken.took) fun o _ => ?_
  cases o with
  | some p => exact .pure fun _ ht => .inl ht
  | none =>
    refine (settles_enterFromTemplate hs _ _ _ _).bind fun p => .pure ?_
    rintro t ⟨bare, hplaced, hbare⟩
    exact .inr ⟨bare, p, hplaced, hbare⟩

theorem settles_written_applyPolicy (hkeyed : Keyed m) (tenantId : Value) (source : PolicySource) (appliedBy : Value) :
    Settles (Taken s c) (applyPolicy tenantId source appliedBy).written (fun _ t => ∃ asked q,
      source.policy s.now = .ok asked ∧
        (m.described tenantId asked = .ok none ∧ Placed s m c asked.rules q t ∨
          ∃ k n e p, Stands s (m.store k q) n t ∧ m.described tenantId asked = .ok (some e) ∧ e.id.asKey = .ok k ∧
            m.lookup k = some p ∧ p.Renews (.ofPolicy asked) s.now c n q)) (Took s) := by
  refine .after (yields_clock s) (fun _ => Taken.took) fun now hnow => ?_
  subst hnow
  refine .after (F := fun asked => source.policy s.now = .ok asked) (.ofReading fun _ h => h) (fun _ => Taken.took) ?_
  intro asked hasked
  refine .after (yields_described hs tenantId asked) (fun _ => Taken.took) fun existing hexisting => ?_
  cases existing with
  | none =>
    refine (settles_enterPolicy hs tenantId (.record asked) appliedBy).bind fun q => .pure ?_
    rintro t ⟨_, hplaced, ⟨⟩⟩
    exact ⟨asked, q, hasked, .inl ⟨hexisting, hplaced⟩⟩
  | some existing =>
    dsimp only
    split
    · refine (settles_renewPolicy hs hkeyed existing.id (.ok (.ofPolicy asked)) appliedBy).bind fun q => .pure ?_
      rintro t ⟨k, n, ht, hk, p, _, ⟨⟩, hp, hrenews⟩
      exact ⟨asked, q, hasked, .inr ⟨k, n, existing, p, ht, hexisting, hk, hp, hrenews⟩⟩
    · exact .throw fun _ => Taken.took

end Written

/-- The request gets as far as to write: it is answered, or refused only because it cannot be told of. -/
def writes (r : Request) (s : GateState) : Bool := (outcome r.written s).1.isOk

end Request

namespace Gate

/-- Steps on policies leave it at that events are not logged. -/
theorem unlogged_work : PolicyWork (fun s => s.logsEvents = false) (fun _ => True) fun _ => True where
  numbered _ _ h := h
  mentioned _ _ _ _ h := h
  called _ _ h := h
  checked _ _ := trivial
  alike _ _ _ _ := trivial
  stored _ _ := trivial
  found _ _ _ _ _ := trivial
  listed _ _ _ _ _ _ _ := trivial
  every _ _ _ _ _ _ := trivial
  added _ _ _ h _ _ := h
  put _ _ _ h _ _ := h
  deleted _ _ _ _ h _ := h

theorem unlogged_storeMoved (violationId : Value) (target : ViolationStatus) (change : Violation → Violation) :
    Keeps (fun s => s.logsEvents = false) (storeMoved violationId target change) := by
  intro s hs
  refine ⟨?_, fun _ _ => trivial⟩
  rcases outcome_storeMoved violationId target change s with ⟨f, hf⟩ | ⟨v, t, -, -, -, hr⟩
  · rw [show outcome _ s = _ from hf]
    exact hs
  · rw [show outcome _ s = _ from hr]
    exact hs

variable {tenantId templateId createdBy : Value}

theorem createPolicy_tells (source : PolicySource) :
    TellsOf (do let p ← enterPolicy tenantId source createdBy; return [p.id, p.name, tenantId])
      (createPolicy tenantId source createdBy) :=
  .bind (unlogged_work.keeps_enterPolicy _ _ _) fun _ => .log_return

theorem createFromTemplate_tells (choice : TemplateChoice) :
    TellsOf (do let p ← enterFromTemplate tenantId templateId choice createdBy; return [p.id, p.name, tenantId])
      (createFromTemplate tenantId templateId choice createdBy) := by
  unfold enterFromTemplate
  rw [bind_assoc]
  refine .bind (unlogged_work.keeps_draftFromTemplate _ _ _ _) fun p => ?_
  exact (createPolicy_tells (.record p)).publish (unlogged_work.keeps_createPolicy _ _ _)

theorem updateWith_tells (policyId : Value) (update : Reading PolicyUpdate) (updatedBy : Value) :
    TellsOf (do let next ← renewPolicy policyId update updatedBy; return [policyId, next.version])
      (updateWith policyId update updatedBy) :=
  .bind (unlogged_work.keeps_renewPolicy _ _ _) fun _ => .log_return

theorem move_tells (violationId : Value) (target : ViolationStatus) (actor : Value) (change : Violation → Violation) :
    TellsOf (do let _ ← storeMoved violationId target change; return [violationId, actor])
      (move violationId target actor change) :=
  .bind (unlogged_storeMoved _ _ _) fun _ => .log_return

theorem unlogged_move (violationId : Value) (target : ViolationStatus) (actor : Value) (change : Violation → Violation) :
    Keeps (fun s => s.logsEvents = false) (move violationId target actor change) :=
  (unlogged_storeMoved _ _ _).bind fun _ => keeps_ofReading.bind fun _ =>
    (keeps_publish_of fun _ h => h).bind fun _ => keeps_pure

end Gate

/-- **What a request tells of** is what it writes. -/
theorem Request.tells (r : Request) : TellsOf r.written r.run := by
  cases r with
  | createPolicy tenantId source createdBy => exact (createPolicy_tells source).discard
  | createFromTemplate tenantId templateId choice createdBy => exact (createFromTemplate_tells choice).discard
  | ensureTemplate tenantId templateId createdBy =>
    refine (TellsOf.bind keeps_ofReading fun id => .bind (unlogged_work.yields_find id).keeps fun o => ?_).discard
    cases o with
    | none => exact createFromTemplate_tells _
    | some p => exact .pure
  | applyPolicy tenantId source appliedBy =>
    refine (TellsOf.bind keeps_clock fun now => .bind keeps_ofReading fun p => ?_).discard
    refine .bind (unlogged_work.keeps_described tenantId p) fun o => ?_
    cases o with
    | none => exact createPolicy_tells _
    | some existing =>
      dsimp only
      split
      · exact updateWith_tells _ _ _
      · exact .throw
  | updatePolicy policyId updates updatedBy => exact (updateWith_tells _ _ _).discard
  | deletePolicy policyId => exact .bind (unlogged_work.keeps_dropPolicy policyId) fun _ => .log
  | addException policyId e => exact (TellsOf.bind (unlogged_work.keeps_enterException policyId e) fun _ => .log_return).discard
  | resolve violationId resolution resolvedBy =>
    refine (TellsOf.bind keeps_clock fun now => ?_).discard
    exact (move_tells _ _ _ _).publish (unlogged_move _ _ _ _)
  | acknowledge => exact (move_tells _ _ _ _).discard
  | suppress => exact (move_tells _ _ _ _).discard
  | markFalsePositive => exact (TellsOf.bind keeps_clock fun now => move_tells _ _ _ _).discard
  | setClock => exact .quiet
  | revokeException => exact .quiet
  | expireExceptions => exact .quiet
  | setStrategy => exact .quiet
  | evaluatePolicies => exact .quiet
  | evaluateDependency => exact .quiet

end SupplyGate
