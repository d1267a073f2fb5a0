import Mathlib.Logic.Relation
import SupplyGate.Proofs.Gate.Readiness
import SupplyGate.Proofs.Policy.Reapplied
import SupplyGate.Proofs.Session.Law

/-!
# What requests do to the policies on record

A request creates a policy under a free key, puts a revision in the place of the policy that it revises,
or deletes one: these are the `Move`s, and whatever a request does to the policies on record, it is some
moves one after the other (`ends_moves`). Only an expiry of exceptions makes more than one.
-/

namespace SupplyGate

/-- An id that stands for a value: the value, or another id where the value stands for nothing. -/
structure StandsFor (v id : Value) : Prop where
  truthy : id.truthy = true
  kept : v.truthy = true → id = v

/-- A policy as it is created from one that was asked for. -/
structure Policy.Created (asked : Policy) (tenantId createdBy : Value) (now : Timestamp) (p : Policy) : Prop where
  sound : Validation.check asked = .ok ()
  id : StandsFor asked.id p.id
  rules : RulesUnder (fun r => StandsFor r.id) asked.rules p.rules
  eq : p = { asked with
    id := p.id, tenantId, rules := p.rules, createdAt := now, updatedAt := now, createdBy }

/-- How a policy on record may be revised: by an update, or by a change of its exceptions. -/
inductive Policy.Revises : Policy → Policy → Prop where
  | updated {p q : Policy} {u : PolicyUpdate} {rules : Option (List Rule)} {now : Timestamp} {updatedBy : Value}
      (named : ∀ rs, rules = some rs → ∀ r ∈ rs, r.id.truthy = true)
      (result : Gate.assembled p u rules now updatedBy = .ok q) (sound : Validation.check q = .ok ()) : Revises p q
  | excepted (p : Policy) (exceptions : Loose (List (Loose PolicyException))) (updatedAt : Timestamp) :
      Revises p { p with exceptions, updatedAt }

/-- What a request does to the policies on record at one time. -/
inductive Move (deletes : Key → Prop) (m : MemoryStore Policy) : MemoryStore Policy → Prop where
  | create {asked p : Policy} {tenantId createdBy : Value} {now : Timestamp} {k : Key}
      (created : asked.Created tenantId createdBy now p) (keyed : MemoryStore.keyOf p = .ok k)
      (free : m.lookup k = none) : Move deletes m (m.store k p)
  | revise {k : Key} {p q : Policy} (here : m.lookup k = some p) (revises : p.Revises q) :
      Move deletes m (m.store k q)
  | delete {k : Key} (deleted : deletes k) : Move deletes m (m.erase k)

/-- Some moves, one after the other. -/
abbrev Moves (deletes : Key → Prop) : MemoryStore Policy → MemoryStore Policy → Prop :=
  Relation.ReflTransGen (Move deletes)

/-- The policies of a gate are those of a store in memory. -/
def Still (m : MemoryStore Policy) (s : GateState) : Prop := s.policies = .memory m

/-- The policies of a gate are in memory, in a store with a property. -/
def Holding (P : MemoryStore Policy → Prop) (s : GateState) : Prop := ∃ m, Still m s ∧ P m

/-- Every policy stands under the key of its id. -/
def Keyed (m : MemoryStore Policy) : Prop := m.Every fun k p => MemoryStore.keyOf p = .ok k

/-- The request deletes the policy under a key, if there is one. -/
def Request.Deletes : Request → Key → Prop
  | .deletePolicy id, k => id.asKey = .ok k
  | _, _ => False

namespace Gate

variable {α β : Type} {I J K : GateState → Prop}

theorem ofReading_bind (x : Reading α) (f : α → Reading β) :
    ofReading (x >>= f) = ofReading x >>= fun a => ofReading (f a) := by
  cases x <;> rfl

theorem ofReading_mapM (f : α → Reading β) : ∀ as : List α,
    as.mapM (fun a => ofReading (f a)) = ofReading (as.mapM f)
  | [] => rfl
  | a :: as => by
    rw [List.mapM_cons, List.mapM_cons, ofReading_bind, ofReading_mapM f as]
    refine bind_congr fun b => ?_
    rw [ofReading_bind]
    rfl

/-! ## Steps from one invariant to another -/

/-- From `I` the step ends in `J`, whether it returns or fails. -/
def Ends (I J : GateState → Prop) (x : Gate α) : Prop := ∀ s, I s → J (outcome x s).2

theorem Ends.of_keeps {x : Gate α} (hx : Keeps I x) (hIJ : ∀ s, I s → J s) : Ends I J x :=
  fun s hs => hIJ _ (hx s hs).1

/-- The first of two steps keeps `I`, and what it yields lets the second end in `J`. -/
theorem Ends.bind {F : α → Prop} {x : Gate α} {f : α → Gate β} (hx : Yields I x F) (hIJ : ∀ s, I s → J s)
    (hf : ∀ a, F a → Ends I J (f a)) : Ends I J (x >>= f) := by
  intro s hs
  have h := hx s hs
  rw [outcome_bind]
  rcases ho : outcome x s with ⟨e | a, t⟩ <;> rw [ho] at h
  · exact hIJ t h.1
  · exact hf a (h.2 a rfl) t h.1

/-- The first of two steps ends in `K`, from where the second ends in `J`. -/
theorem Ends.andThen {x : Gate α} {f : α → Gate β} (hx : Ends I K x) (hKJ : ∀ s, K s → J s)
    (hf : ∀ a, Ends K J (f a)) : Ends I J (x >>= f) := by
  intro s hs
  have h := hx s hs
  rw [outcome_bind]
  rcases ho : outcome x s with ⟨e | a, t⟩ <;> rw [ho] at h
  · exact hKJ t h
  · exact hf a t h

/-- Where the first of two steps ends in `J`, the second may keep it. -/
theorem Ends.thenKeeps {x : Gate α} {f : α → Gate β} (hx : Ends I J x) (hf : ∀ a, Keeps J (f a)) :
    Ends I J (x >>= f) :=
  hx.andThen (fun _ h => h) fun a => .of_keeps (hf a) fun _ h => h

theorem Ends.discard {x : Gate α} (hx : Ends I J x) : Ends I J (discard x) := by
  intro s hs
  rw [outcome_discard]
  exact hx s hs

/-! ## Reading policies -/

section Policies

variable {P : MemoryStore Policy → Prop} {m : MemoryStore Policy}

theorem policies_runLaw (Q : Store Policy → Prop) : RunLaw fun s => Q s.policies where
  recorded _ _ _ hs _ := hs
  numbered _ _ hs := hs
  published _ _ hs := hs
  called _ _ hs := hs

theorem still_runLaw (m : MemoryStore Policy) : RunLaw (Still m) := policies_runLaw (· = .memory m)

theorem holding_runLaw (P : MemoryStore Policy → Prop) : RunLaw (Holding P) :=
  policies_runLaw fun t => ∃ m, t = .memory m ∧ P m

theorem yields_find_policy_of (hI : ∀ s, I s → Still m s) (id : Value) :
    Yields I (find .policies id) fun o => ∃ k, id.asKey = .ok k ∧ o = m.lookup k := by
  intro s hs
  refine ⟨by rwa [outcome_find], fun o ho => ?_⟩
  rw [outcome_find, show Shelf.policies.read s = .memory m from hI s hs] at ho
  exact MemoryStore.get_ok.mp ho

theorem yields_find_policy (id : Value) :
    Yields (Still m) (find .policies id) fun o => ∃ k, id.asKey = .ok k ∧ o = m.lookup k :=
  yields_find_policy_of (fun _ hs => hs) id

theorem yields_getPolicy_of (hI : ∀ s, I s → Still m s) (id : Value) :
    Yields I (getPolicy id) fun p => ∃ k, id.asKey = .ok k ∧ m.lookup k = some p := by
  refine (yields_find_policy_of hI id).bind fun o ho => ?_
  obtain ⟨k, hk, rfl⟩ := ho
  cases hp : m.lookup k with
  | none => exact .throw
  | some p => exact .pure ⟨k, hk, hp⟩

theorem yields_getPolicy (id : Value) :
    Yields (Still m) (getPolicy id) fun p => ∃ k, id.asKey = .ok k ∧ m.lookup k = some p :=
  yields_getPolicy_of (fun _ hs => hs) id

theorem yields_tenantPolicies (tenantId : Value) :
    Yields (Still m) (ofTenant .policies tenantId) fun ps => ps = m.ofTenant tenantId := by
  intro s hs
  refine ⟨by rwa [outcome_ofTenant], fun ps hps => ?_⟩
  rw [outcome_ofTenant, show Shelf.policies.read s = .memory m from hs] at hps
  exact (Except.ok.inj hps).symm

theorem yields_allPolicies : Yields (Still m) (all .policies) fun ps => ps = m.all := by
  intro s hs
  refine ⟨by rwa [outcome_all], fun ps hps => ?_⟩
  rw [outcome_all, show Shelf.policies.read s = .memory m from hs] at hps
  exact (Except.ok.inj hps).symm

/-! ## Ids -/

theorem truthy_textOf (kind : IdKind) (n : Nat) : (Value.str (Ids.textOf kind n)).truthy = true :=
  bne_iff_ne.mpr (Ids.textOf_ne_empty kind n)

theorem yields_orFresh_of {kind : IdKind} (hI : ∀ s, I s → I { s with ids := s.ids.bump kind }) (v : Value) :
    Yields I (orFresh kind v) (StandsFor v) := by
  unfold orFresh
  split
  · next hv => exact .pure ⟨hv, fun _ => rfl⟩
  · next hv =>
    intro s hs
    refine ⟨hI s hs, fun id hid => ?_⟩
    obtain rfl := Except.ok.inj hid
    exact ⟨truthy_textOf _ _, fun h => absurd h hv⟩

theorem yields_orFresh (L : Routine I) (kind : IdKind) (v : Value) : Yields I (orFresh kind v) (StandsFor v) :=
  yields_orFresh_of (fun s hs => L.numbered s kind hs) v

/-! ## Writing policies -/

variable {deletes : Key → Prop}

theorem holding_refl (s : GateState) (hs : Still m s) : Holding (Moves deletes m) s := ⟨m, hs, .refl⟩

/-- A policy is added as it is created. -/
theorem ends_add {asked p : Policy} {tenantId createdBy : Value} {now : Timestamp}
    (hp : asked.Created tenantId createdBy now p) :
    Ends (Still m) (Holding (Moves deletes m)) (add .policies p) := by
  intro s hs
  rw [outcome_add, show Shelf.policies.read s = .memory m from hs]
  cases hadd : (Store.memory m).add p with
  | error f => exact holding_refl s hs
  | ok t =>
    obtain ⟨m', hm', rfl⟩ := Store.add_memory.mp hadd
    obtain ⟨k, hk, hfree, rfl⟩ := MemoryStore.add_ok.mp hm'
    exact ⟨_, rfl, .single (.create hp hk hfree)⟩

/-- A policy is put in the place of the one that has its id. -/
theorem ends_keep {k : Key} {p q : Policy} (hkeyed : Keyed m) (hp : m.lookup k = some p) (hid : q.id = p.id) :
    Ends (Still m) (Still (m.store k q)) (keep .policies q) := by
  intro s hs
  have hk : MemoryStore.keyOf q = .ok k := (congrArg Value.asKey hid).trans (hkeyed.lookup hp)
  have hput : (Store.memory m).put q = .ok (.memory (m.store k q)) :=
    Store.put_memory.mpr ⟨_, MemoryStore.put_ok.mpr ⟨k, hk, rfl⟩, rfl⟩
  rw [outcome_keep, show Shelf.policies.read s = .memory m from hs, hput]
  rfl

theorem holding_revise {k : Key} {p q : Policy} (hp : m.lookup k = some p) (hq : p.Revises q) (s : GateState)
    (hs : Still (m.store k q) s) : Holding (Moves deletes m) s :=
  ⟨_, hs, .single (.revise hp hq)⟩

/-- Some values may be written and an event be published about policies that are on record. -/
theorem keeps_tell {P : MemoryStore Policy → Prop} {values : List Value} {e : Event} {a : α} :
    Keeps (Holding P) (do logValues values; publish e; return a) :=
  keeps_ofReading.bind fun _ => Keeps.bind ((holding_runLaw P).keeps_publish e) fun _ => keeps_pure

/-! ## Creating -/

theorem yields_withRuleId (r : Rule) :
    Yields (Still m) (withRuleId r) fun r' => ∃ id, StandsFor r.id id ∧ r' = { r with id := id } :=
  Yields.bind (yields_orFresh (still_runLaw m).toRoutine .rule r.id) fun id hid => .pure ⟨id, hid, rfl⟩

theorem ends_enterPolicy (tenantId : Value) (source : PolicySource) (createdBy : Value) :
    Ends (Still m) (Holding (Moves deletes m)) (enterPolicy tenantId source createdBy) := by
  refine .bind keeps_clock holding_refl fun now _ => .bind keeps_ofReading holding_refl fun asked _ => ?_
  refine .bind (F := fun _ => Validation.check asked = .ok ()) (.ofReading fun _ hc => hc) holding_refl ?_
  intro _ hsound
  refine .bind (yields_orFresh (still_runLaw m).toRoutine .policy asked.id) holding_refl fun id hid => ?_
  refine .bind (.mapM fun r _ => yields_withRuleId r) holding_refl fun rules hrules => ?_
  have hcreated : asked.Created tenantId createdBy now { asked with
      id, tenantId, rules, createdAt := now, updatedAt := now, createdBy } := ⟨hsound, hid, hrules, rfl⟩
  exact (ends_add hcreated).thenKeeps fun _ => keeps_pure

theorem ends_createPolicy (tenantId : Value) (source : PolicySource) (createdBy : Value) :
    Ends (Still m) (Holding (Moves deletes m)) (createPolicy tenantId source createdBy) :=
  (ends_enterPolicy tenantId source createdBy).thenKeeps fun _ => keeps_tell

theorem keeps_templateRule (edits : List (String × List RuleEdit)) (r : Rule) :
    Keeps (Still m) (templateRule edits r) :=
  Keeps.bind ((still_runLaw m).keeps_fresh _) fun _ => keeps_ofReading.bind fun _ => keeps_pure

theorem keeps_draftFromTemplate (tenantId templateId : Value) (choice : TemplateChoice) (createdBy : Value) :
    Keeps (Still m) (draftFromTemplate tenantId templateId choice createdBy) := by
  refine Keeps.bind (PolicyWork.keeps_getTemplate templateId) fun t => keeps_clock.bind fun now => ?_
  refine Keeps.bind (Keeps.mapM fun r _ => keeps_templateRule _ r) fun rules => ?_
  refine Keeps.bind (yields_orFresh (still_runLaw m).toRoutine .policy _).keeps fun id => ?_
  split
  · exact keeps_pure.bind fun _ => keeps_pure
  · exact keeps_throw.bind fun _ => keeps_pure

theorem ends_createFromTemplate (tenantId templateId : Value) (choice : TemplateChoice) (createdBy : Value) :
    Ends (Still m) (Holding (Moves deletes m)) (createFromTemplate tenantId templateId choice createdBy) := by
  refine .bind (keeps_draftFromTemplate tenantId templateId choice createdBy) holding_refl fun p _ => ?_
  refine (ends_createPolicy tenantId (.record p) createdBy).thenKeeps fun stored => ?_
  exact Keeps.bind ((holding_runLaw _).keeps_publish _) fun _ => keeps_pure

theorem ends_ensureTemplate (tenantId templateId createdBy : Value) :
    Ends (Still m) (Holding (Moves deletes m)) (ensureTemplate tenantId templateId createdBy) := by
  refine .bind keeps_ofReading holding_refl fun id _ => .bind (yields_find_policy id) holding_refl fun o _ => ?_
  cases o with
  | some p => exact .of_keeps keeps_pure holding_refl
  | none => exact ends_createFromTemplate _ _ _ _

/-! ## Updating -/

theorem yields_keptRuleId (current : List Rule) (r : Rule) :
    Yields (Still m) (keptRuleId current r) fun id => id.truthy = true := by
  have hfresh : Yields (Still m) (fresh .rule) fun id => id.truthy = true := by
    intro s hs
    refine ⟨hs, fun id hid => ?_⟩
    obtain rfl := Except.ok.inj hid
    exact truthy_textOf _ _
  unfold keptRuleId
  split
  · next hr => exact .pure hr
  · refine Yields.bind (F := fun _ => True) (.map keeps_ofReading fun _ _ => trivial) fun _ _ => ?_
    split
    · exact (yields_orFresh (still_runLaw m).toRoutine _ _).mono fun _ h => h.truthy
    · exact hfresh

/-- Each rule of an update is given an id of which is known what is known of every id that it may be given. -/
theorem yields_identified {known : Rule → Value → Prop} {current : List Rule}
    (hknown : ∀ r, Yields (Still m) (keptRuleId current r) (known r)) (rules : List (Loose Rule)) :
    Yields (Still m) (identified current rules) (List.Forall₂ (fun l r' =>
      ∃ r id, l = .held r ∧ known r id ∧ r' = { r with id := id }) rules) := by
  refine .mapM fun l _ => ?_
  refine Yields.bind (F := fun r => l = .held r) (.ofReading fun r hr => Loose.part_eq_ok.mp hr) fun r hr => ?_
  exact (hknown r).bind fun id hid => .pure ⟨r, id, hr, hid, rfl⟩

/-- An update by rules finds out that these, each with an id, have the documents of the current ones one by
one, or else these are the rules from then on. -/
theorem yields_changedRules_some {known : Rule → Value → Prop} {current : List Rule}
    (hknown : ∀ r, Yields (Still m) (keptRuleId current r) (known r)) (rules : List (Loose Rule)) :
    Yields (Still m) (changedRules current (some rules)) fun changed =>
      (∀ c ∈ current, ∃ k, c.name = .scalar k) ∧
        ∃ rs, List.Forall₂ (fun l r' => ∃ r id, l = .held r ∧ known r id ∧ r' = { r with id := id })
          rules rs ∧ (changed = some rs ∨ changed = none ∧ List.Forall₂ Rule.SameDoc rs current) := by
  have hnames : Yields (Still m) (discard (current.mapM fun c => ofReading c.name.asScalar)) fun _ =>
      ∀ c ∈ current, ∃ k, c.name = .scalar k := by
    refine .map (F := List.Forall₂ (fun c k => c.name.asScalar = .ok k) current) ?_ fun ks hks c hc => ?_
    · exact .mapM fun c _ => .ofReading fun k hk => hk
    · obtain ⟨k, -, hk⟩ := exists_of_forall₂ hks.flip c hc
      exact Value.asScalar_ok_iff.mp ⟨k, hk⟩
  refine hnames.bind fun _ hnames => (yields_identified hknown rules).bind fun rs hrs => ?_
  simp only [ofReading_mapM]
  refine Yields.bind (.ofReading fun _ h => h) fun after hafter => ?_
  refine Yields.bind (.ofReading fun _ h => h) fun before hbefore => .pure ⟨hnames, rs, hrs, ?_⟩
  split
  · next hsame => exact .inr ⟨rfl, sameItems_docs_iff.mp ⟨after, before, hafter, hbefore, hsame⟩⟩
  · exact .inl rfl

/-- If the rules of an update differ from the current ones, each of them gets an id. -/
theorem yields_changedRules (current : List Rule) (rules : Option (List (Loose Rule))) :
    Yields (Still m) (changedRules current rules) fun changed =>
      ∀ rs, changed = some rs → ∀ r ∈ rs, r.id.truthy = true := by
  cases rules with
  | none => exact .pure (by simp)
  | some rules =>
    refine (yields_changedRules_some (yields_keptRuleId current) rules).mono fun changed h rs hchanged r hr => ?_
    obtain ⟨-, rs', hrs, rfl | ⟨rfl, -⟩⟩ := h
    · obtain rfl := Option.some.inj hchanged
      obtain ⟨l, -, r', id, -, hid, rfl⟩ := exists_of_forall₂ hrs r hr
      exact hid
    · cases hchanged

theorem updated_eq (p : Policy) (u : PolicyUpdate) (now : Timestamp) (updatedBy : Value) :
    updated p u now updatedBy = (do
      let rules ← changedRules p.rules u.rules
      ofReading (assembled p u rules now updatedBy)) := by
  unfold updated
  refine bind_congr fun rules => ?_
  unfold assembled withChanged
  cases rules with
  | none => simp only [pure_bind, liftM_eq_ofReading, ofReading_bind]; rfl
  | some rules => simp only [liftM_eq_ofReading, ofReading_bind]; rfl

theorem ends_renewPolicy (hkeyed : Keyed m) (policyId : Value) (update : Reading PolicyUpdate) (updatedBy : Value) :
    Ends (Still m) (Holding (Moves deletes m)) (renewPolicy policyId update updatedBy) := by
  refine .bind (yields_getPolicy policyId) holding_refl fun p hp => ?_
  obtain ⟨k, -, hp⟩ := hp
  refine .bind keeps_ofReading holding_refl fun u _ => .bind keeps_clock holding_refl fun now _ => ?_
  refine .bind (F := fun q => ∃ rules, (∀ rs, rules = some rs → ∀ r ∈ rs, r.id.truthy = true) ∧
    assembled p u rules now updatedBy = .ok q) ?_ holding_refl fun q hq => ?_
  · rw [updated_eq]
    refine (yields_changedRules p.rules u.rules).bind fun rules hrules => ?_
    exact .ofReading fun q hq => ⟨rules, hrules, hq⟩
  · obtain ⟨rules, hrules, hq⟩ := hq
    refine .bind (F := fun _ => Validation.check q = .ok ()) (.ofReading fun _ hc => hc) holding_refl ?_
    intro _ hsound
    refine .andThen (ends_keep hkeyed hp (assembled_ok hq).1.id) (holding_revise hp (.updated hrules hq hsound)) ?_
    exact fun _ => .of_keeps keeps_pure (holding_revise hp (.updated hrules hq hsound))

theorem ends_updateWith (hkeyed : Keyed m) (policyId : Value) (update : Reading PolicyUpdate) (updatedBy : Value) :
    Ends (Still m) (Holding (Moves deletes m)) (updateWith policyId update updatedBy) :=
  (ends_renewPolicy hkeyed policyId update updatedBy).thenKeeps fun _ => keeps_tell

theorem ends_applyPolicy (hkeyed : Keyed m) (tenantId : Value) (source : PolicySource) (appliedBy : Value) :
    Ends (Still m) (Holding (Moves deletes m)) (applyPolicy tenantId source appliedBy) := by
  refine .bind keeps_clock holding_refl fun now _ => .bind keeps_ofReading holding_refl fun p _ => ?_
  have hdescribed : Keeps (Still m) (described tenantId p) := by
    unfold described
    split
    · exact (yields_find_policy _).keeps
    · exact (yields_tenantPolicies _).keeps.bind fun _ => keeps_pure
  refine .bind hdescribed holding_refl fun existing _ => ?_
  cases existing with
  | none => exact ends_createPolicy _ _ _
  | some existing =>
    dsimp only
    split
    · exact ends_updateWith hkeyed _ _ _
    · exact .of_keeps keeps_throw holding_refl

/-! ## Deleting -/

theorem ends_dropPolicy {policyId : Value} (hd : ∀ k, policyId.asKey = .ok k → deletes k) :
    Ends (Still m) (Holding (Moves deletes m)) (dropPolicy policyId) := by
  have hremove : Ends (Still m) (Holding (Moves deletes m)) (remove .policies policyId) := by
    intro s hs
    rw [outcome_remove, show Shelf.policies.read s = .memory m from hs]
    cases hdelete : (Store.memory m).delete policyId with
    | error f => exact holding_refl s hs
    | ok t =>
      obtain ⟨⟨found, m'⟩, hm', h⟩ := Reading.bind_eq_ok.mp hdelete
      cases h
      rcases MemoryStore.delete_ok hm' with rfl | ⟨k, hk, rfl⟩
      · exact holding_refl _ rfl
      · exact ⟨_, rfl, .single (.delete (hd k hk))⟩
  refine .bind (yields_getPolicy policyId) holding_refl fun p _ => ?_
  exact hremove.thenKeeps fun _ => keeps_pure

theorem ends_deletePolicy {policyId : Value} (hd : ∀ k, policyId.asKey = .ok k → deletes k) :
    Ends (Still m) (Holding (Moves deletes m)) (deletePolicy policyId) :=
  (ends_dropPolicy hd).thenKeeps fun _ => keeps_ofReading.bind fun _ => (holding_runLaw _).keeps_publish _

/-! ## Exceptions -/

/-- Other exceptions are put in, and an event may be published. -/
theorem ends_keepExceptions {k : Key} {p : Policy} (hkeyed : Keyed m) (hp : m.lookup k = some p)
    (exceptions : Loose (List (Loose PolicyException))) (updatedAt : Timestamp) {f : Unit → Gate α}
    (hf : ∀ (P : MemoryStore Policy → Prop) u, Keeps (Holding P) (f u)) :
    Ends (Still m) (Holding (Moves deletes m)) (keep .policies { p with exceptions, updatedAt } >>= f) := by
  have hid : { p with exceptions, updatedAt }.id = p.id := rfl
  refine .thenKeeps (fun s hs => ?_) (hf _)
  exact holding_revise hp (.excepted p exceptions updatedAt) _ (ends_keep hkeyed hp hid s hs)

theorem ends_enterException (hkeyed : Keyed m) (policyId : Value) (e : PolicyException) :
    Ends (Still m) (Holding (Moves deletes m)) (enterException policyId e) := by
  refine .bind (yields_getPolicy policyId) holding_refl fun p hp => ?_
  obtain ⟨k, -, hp⟩ := hp
  split
  · refine .bind keeps_ofReading holding_refl fun _ _ => .bind keeps_ofReading holding_refl fun _ _ => ?_
    exact .bind (F := fun _ => False) .throw holding_refl fun _ => False.elim
  · refine .bind (yields_orFresh (still_runLaw m).toRoutine _ _) holding_refl fun id _ => ?_
    refine .bind keeps_ofReading holding_refl fun exceptions _ => .bind keeps_clock holding_refl fun now _ => ?_
    exact ends_keepExceptions hkeyed hp exceptions now fun _ _ => keeps_pure

theorem ends_addException (hkeyed : Keyed m) (policyId : Value) (e : PolicyException) :
    Ends (Still m) (Holding (Moves deletes m)) (addException policyId e) :=
  (ends_enterException hkeyed policyId e).thenKeeps fun _ => keeps_tell

theorem ends_revokeException (hkeyed : Keyed m) (policyId exceptionId revokedBy : Value) :
    Ends (Still m) (Holding (Moves deletes m)) (revokeException policyId exceptionId revokedBy) := by
  refine .bind (yields_getPolicy policyId) holding_refl fun p hp => ?_
  obtain ⟨k, -, hp⟩ := hp
  refine .bind keeps_ofReading holding_refl fun es _ => .bind keeps_ofReading holding_refl fun found _ => ?_
  cases found with
  | none => exact .of_keeps keeps_throw holding_refl
  | some e =>
    refine .bind keeps_ofReading holding_refl fun exceptions _ => .bind keeps_clock holding_refl fun now _ => ?_
    exact ends_keepExceptions hkeyed hp _ now fun P _ =>
      Keeps.bind ((holding_runLaw P).keeps_publish _) fun _ => keeps_pure

/-- Some moves were made, and some policies are still there that an expiry has to look at. -/
def Expiring (deletes : Key → Prop) (m : MemoryStore Policy) (rest : List (Key × Policy)) : GateState → Prop :=
  Holding fun m' => Moves deletes m m' ∧ Keyed m' ∧ ∀ e ∈ rest, m'.lookup e.1 = some e.2

theorem Expiring.mono {rest rest' : List (Key × Policy)} {s : GateState} (h : Expiring deletes m rest s)
    (hsub : rest' ⊆ rest) : Expiring deletes m rest' s := by
  obtain ⟨m', hm', hmoves, hkeyed, hrest⟩ := h
  exact ⟨m', hm', hmoves, hkeyed, fun e he => hrest e (hsub he)⟩

/-- Putting a revision in is one more move, and the other policies are still there. -/
theorem Expiring.revise {m' : MemoryStore Policy} {k : Key} {p q : Policy} {rest : List (Key × Policy)}
    (hmoves : Moves deletes m m') (hkeyed : Keyed m') (hrest : ∀ e ∈ (k, p) :: rest, m'.lookup e.1 = some e.2)
    (hk : k ∉ rest.map (·.1)) (hq : p.Revises q) (hid : q.id = p.id) {s : GateState}
    (hs : Still (m'.store k q) s) : Expiring deletes m rest s := by
  obtain ⟨hp, hrest⟩ := List.forall_mem_cons.mp hrest
  have hkey : MemoryStore.keyOf q = .ok k := (congrArg Value.asKey hid).trans (hkeyed.lookup hp)
  refine ⟨_, hs, hmoves.tail (.revise hp hq), hkeyed.store hkey, fun e he => ?_⟩
  have hne : e.1 ≠ k := fun h => hk (h ▸ List.mem_map_of_mem he)
  rw [MemoryStore.lookup_store_ne hne, hrest e he]

/-- The expiry looks at a policy, and may revise it in its place. -/
theorem ends_expireIn (now : Timestamp) {k : Key} {p : Policy} {rest : List (Key × Policy)}
    (hk : k ∉ rest.map (·.1)) :
    Ends (Expiring deletes m ((k, p) :: rest)) (Expiring deletes m rest) (expireIn now p) := by
  intro s hs
  obtain ⟨m', hm', hmoves, hkeyed, hrest⟩ := hs
  have hp : m'.lookup k = some p := hrest (k, p) List.mem_cons_self
  have hkept : ∀ t, Still m' t → Expiring deletes m rest t := fun t ht =>
    ⟨m', ht, hmoves, hkeyed, fun e he => hrest e (List.mem_cons_of_mem _ he)⟩
  have hends : Ends (Still m') (Expiring deletes m rest) (expireIn now p) := by
    refine .bind keeps_ofReading hkept fun es _ => .bind keeps_ofReading hkept fun outcomes _ => ?_
    dsimp only
    split
    · refine .thenKeeps (fun t ht => ?_) fun _ => keeps_pure
      have hq : p.Revises { p with exceptions := .held (outcomes.map Prod.snd) } := .excepted p _ p.updatedAt
      have hid : { p with exceptions := .held (outcomes.map Prod.snd) }.id = p.id := rfl
      exact .revise hmoves hkeyed hrest hk hq hid (ends_keep hkeyed hp hid t ht)
    · exact .of_keeps keeps_pure hkept
  exact hends s hm'

/-- The expiry looks at one policy after the other. -/
theorem ends_expireEach (now : Timestamp) : ∀ {records : List (Key × Policy)}, (records.map (·.1)).Nodup →
    Ends (Expiring deletes m records) (Expiring deletes m []) ((records.map (·.2)).mapM (expireIn now))
  | [], _ => .of_keeps keeps_pure fun _ h => h
  | (k, p) :: records, h => by
    obtain ⟨hk, hrecords⟩ := List.nodup_cons.mp h
    rw [List.map_cons, List.mapM_cons]
    refine (ends_expireIn now hk).andThen (fun _ h => h.mono (List.nil_subset _)) fun n => ?_
    exact (ends_expireEach now hrecords).thenKeeps fun _ => keeps_pure

theorem ends_expireExceptions (hkeyed : Keyed m) (hdistinct : m.Distinct) (now : Option Timestamp) :
    Ends (Still m) (Holding (Moves deletes m)) (expireExceptions now) := by
  refine .bind keeps_clock holding_refl fun clock _ => .bind yields_allPolicies holding_refl fun ps hps => ?_
  subst hps
  have hstart : ∀ s, Still m s → Expiring deletes m m.records s := fun s hs =>
    ⟨m, hs, .refl, hkeyed, fun e he => hdistinct.lookup_of_mem he⟩
  have hend : ∀ s, Expiring deletes m [] s → Holding (Moves deletes m) s := by
    rintro s ⟨m', hm', hmoves, -⟩
    exact ⟨m', hm', hmoves⟩
  refine .thenKeeps (fun s hs => ?_) fun _ => keeps_pure
  exact hend _ (ends_expireEach _ hdistinct s (hstart s hs))

/-! ## Requests that leave policies alone -/

/-- An invariant that can only be broken by touching policies. -/
structure Elsewhere (I : GateState → Prop) : Prop extends RunLaw I where
  violations : ∀ s t, I s → I { s with violations := t }
  strategies : ∀ s t, I s → I { s with strategies := t }
  clocked : ∀ s now, I s → I { s with now }

theorem still_elsewhere (m : MemoryStore Policy) : Elsewhere (Still m) where
  toRunLaw := still_runLaw m
  violations _ _ hs := hs
  strategies _ _ hs := hs
  clocked _ _ hs := hs

namespace Elsewhere

variable (L : Elsewhere I)
include L

theorem keeps_move (violationId : Value) (target : ViolationStatus) (actor : Value)
    (change : Violation → Violation) : Keeps I (move violationId target actor change) :=
  keeps_move_of fun s _ t hs _ _ _ =>
    (keeps_ofReading.bind (fun _ => L.keeps_publish _) { s with violations := t } (L.violations s t hs)).1

theorem keeps_setStrategy (u : UpdateStrategy) : Keeps I (setStrategy u) := by
  intro s hs
  refine ⟨?_, fun _ _ => trivial⟩
  unfold setStrategy
  rw [outcome_keep]
  split
  · exact L.strategies s _ hs
  · exact hs

theorem keeps_detect {p : Policy} {r : Rule} {d : Dependency} {o : ConditionOutcome} {c : EvaluationContext}
    {now : Timestamp} : Keeps I (detect p r d o c now) :=
  L.toWorking.keeps_detect (fun _ _ => L.keeps_publish _) L.violations

end Elsewhere

end Policies

end Gate

open Gate

/-- The request writes no policies. -/
def Request.Reads : Request → Prop
  | .createPolicy .. | .createFromTemplate .. | .ensureTemplate .. | .applyPolicy .. | .updatePolicy ..
  | .deletePolicy .. | .addException .. | .revokeException .. | .expireExceptions .. => False
  | _ => True

theorem Request.Reads.keeps {r : Request} (hr : r.Reads) {I : GateState → Prop} (L : Elsewhere I) : Keeps I r.run := by
  cases r with
  | setClock now => exact .modify fun s hs => L.clocked s now hs
  | resolve =>
    refine Handling.keeps_discard (keeps_clock.bind fun now => Keeps.bind (L.keeps_move _ _ _ _) fun v => ?_)
    exact Keeps.bind (L.keeps_publish _) fun _ => keeps_pure
  | acknowledge => exact Handling.keeps_discard (L.keeps_move _ _ _ _)
  | suppress => exact Handling.keeps_discard (L.keeps_move _ _ _ _)
  | markFalsePositive => exact Handling.keeps_discard (keeps_clock.bind fun _ => L.keeps_move _ _ _ _)
  | setStrategy => exact L.keeps_setStrategy _
  | evaluatePolicies =>
    exact Handling.keeps_discard (L.yields_evaluatePolicies (R := fun _ _ _ => True) fun _ _ _ _ _ _ _ _ => L.keeps_detect).keeps
  | evaluateDependency => exact Handling.keeps_discard (keeps_evaluateDependency fun _ _ _ _ _ _ => L.keeps_detect)
  | _ => exact hr.elim

/-- **What a request does to the policies on record is some moves**, whether it is answered or refused. -/
theorem Request.ends_moves {m : MemoryStore Policy} (hkeyed : Keyed m) (hdistinct : m.Distinct) (r : Request) :
    Ends (Still m) (Holding (Moves r.Deletes m)) r.run := by
  have hreads : r.Reads → Ends (Still m) (Holding (Moves r.Deletes m)) r.run := fun hr =>
    .of_keeps (hr.keeps (still_elsewhere m)) holding_refl
  cases r with
  | createPolicy => exact (ends_createPolicy _ _ _).discard
  | createFromTemplate => exact (ends_createFromTemplate _ _ _ _).discard
  | ensureTemplate => exact (ends_ensureTemplate _ _ _).discard
  | applyPolicy => exact (ends_applyPolicy hkeyed _ _ _).discard
  | updatePolicy => exact (ends_updateWith hkeyed _ _ _).discard
  | deletePolicy => exact ends_deletePolicy fun _ => id
  | addException => exact (ends_addException hkeyed _ _).discard
  | revokeException => exact (ends_revokeException hkeyed _ _ _).discard
  | expireExceptions => exact (ends_expireExceptions hkeyed hdistinct _).discard
  | _ => exact hreads trivial

end SupplyGate
