import SupplyGate.Proofs.Gate.Endings
import SupplyGate.Proofs.Gate.Sweeping
import SupplyGate.Proofs.Session.Evaluable
import SupplyGate.Proofs.Session.Policies

/-!
# Expiring exceptions

Expiring exceptions returns just when every policy on record has a list of exceptions, each with an expiry
if it is active, and if one is, the time has an offset. It then marks those that have lapsed and does nothing else, and tells how many they are.
Doing so again for an earlier time does nothing; and no run at that time or later is any different
(`expiry_unseen`).
-/

namespace SupplyGate

open Gate

/-! ## Statuses -/

/-- The policies on record after a sweep. -/
def MemoryStore.swept (now : Timestamp) (m : MemoryStore Policy) : MemoryStore Policy :=
  { m with records := m.records.map fun (k, p) => (k, p.swept now) }

/-- The statuses of the exceptions on record, policy by policy. -/
def MemoryStore.statuses (m : MemoryStore Policy) : List ExceptionStatus :=
  m.all.flatMap fun p => p.heldExceptions.map (·.status)

/-- How many exceptions have another status in a second store. -/
def statusChanges (m m' : MemoryStore Policy) : Nat :=
  (m.statuses.zip m'.statuses).countP fun (before, after) => before ≠ after

namespace Policy

variable {p : Policy} {n now : Timestamp} {es : List PolicyException}

theorem heldExceptions_swept : (p.swept n).heldExceptions = p.heldExceptions.map (PolicyException.swept n) := by
  cases hp : p.exceptions with
  | raw v => simp [heldExceptions, swept, hp, Loose.map]
  | held es =>
    have hget : ∀ l : Loose PolicyException, (l.map (PolicyException.swept n)).get? = l.get?.map (.swept n) := by
      intro l
      cases l <;> rfl
    have hheld : (p.swept n).exceptions = .held (es.map (Loose.map (PolicyException.swept n))) := by
      rw [swept, hp]
      rfl
    simp only [heldExceptions, hheld, hp, List.filterMap_map, List.map_filterMap, Function.comp_def, hget]

theorem heldExceptions_of_list (h : p.exceptionList = .ok (es.map .held)) : p.heldExceptions = es := by
  cases hp : p.exceptions with
  | held ls =>
    simp only [exceptionList, hp, Except.ok.injEq] at h
    simp [heldExceptions, hp, h, List.filterMap_map, Function.comp_def, Loose.get?]
  | raw v =>
    simp only [exceptionList, hp] at h
    obtain ⟨items, -, h⟩ := Reading.bind_eq_ok.mp h
    cases items <;> cases es <;> simp_all [heldExceptions, pure, Except.pure]

/-- A sweep under which nothing lapses does nothing. -/
theorem swept_of_lapsed_eq_zero (h : p.exceptionList = .ok (es.map .held)) (h0 : p.lapsed n = 0) : p.swept n = p := by
  rw [lapsed, heldExceptions_of_list h, List.countP_eq_zero] at h0
  have hsame : ∀ e ∈ es, e.swept n = e := fun e he =>
    PolicyException.swept_of_not_lapses (Bool.eq_false_iff.mpr (h0 e he))
  have hexceptions : p.exceptions.map (List.map (Loose.map (PolicyException.swept n))) = p.exceptions := by
    cases hp : p.exceptions with
    | raw v => rfl
    | held ls =>
      obtain rfl : ls = es.map .held := by simpa [exceptionList, hp] using h
      simp only [Loose.map, List.map_map, Function.comp_def]
      exact congrArg Loose.held (List.map_congr_left fun e he => congrArg Loose.held (hsame e he))
  rw [swept, hexceptions]

/-- Where something lapses, the policy has a list of exceptions. -/
theorem swept_of_lapsed_pos (h : p.exceptionList = .ok (es.map .held)) (hpos : 0 < p.lapsed n) :
    p.swept n = { p with exceptions := .held (es.map fun e => .held (e.swept n)) } := by
  cases hp : p.exceptions with
  | raw v => simp [lapsed, heldExceptions, hp] at hpos
  | held ls =>
    obtain rfl : ls = es.map .held := by simpa [exceptionList, hp] using h
    simp [swept, hp, Loose.map, Function.comp_def]

theorem Expires.again (h : p.Expires n) (ho : n.offset.isSome = true → now.offset.isSome = true) :
    (p.swept n).Expires now := by
  obtain ⟨es, hes, hexpires⟩ := h
  refine ⟨es.map (.swept n), ?_, ?_⟩
  · rw [exceptionList_swept, hes]
    simp [Except.map, Loose.map, Function.comp_def]
  · simpa using fun e he => ((hexpires e he).of_offset ho).again

/-- Nothing lapses a second time. -/
theorem lapsed_swept (h : now.instant ≤ n.instant) : (p.swept n).lapsed now = 0 := by
  rw [lapsed, heldExceptions_swept, List.countP_map, List.countP_eq_zero]
  intro e _
  simp [PolicyException.lapses_swept h]

end Policy

/-- A sweep changes as many statuses as exceptions have lapsed. -/
theorem statusChanges_swept (m : MemoryStore Policy) (n : Timestamp) :
    statusChanges m (m.swept n) = (m.all.map (Policy.lapsed n)).sum := by
  have hpolicy : ∀ es : List PolicyException,
      ((es.map (·.status)).zip ((es.map (PolicyException.swept n)).map (·.status))).countP
        (fun (before, after) => decide (before ≠ after)) = es.countP (PolicyException.lapses n) := by
    intro es
    rw [List.map_map, List.zip_map', List.countP_map]
    refine List.countP_congr fun e _ => ?_
    simpa using PolicyException.status_swept
  have hall : (m.swept n).all = m.all.map (Policy.swept n) := by
    simp [MemoryStore.all, MemoryStore.swept, Function.comp_def]
  unfold statusChanges MemoryStore.statuses
  rw [hall]
  induction m.all with
  | nil => rfl
  | cons p ps ih =>
    rw [List.map_cons, List.flatMap_cons, List.flatMap_cons, List.zip_append (by simp [Policy.heldExceptions_swept]),
      List.countP_append, ih, Policy.heldExceptions_swept, hpolicy, List.map_cons, List.sum_cons, Policy.lapsed]

namespace MemoryStore

variable {m : MemoryStore Policy} {n earlier : Timestamp}

theorem keys_swept : (m.swept n).records.map (·.1) = m.records.map (·.1) := by
  simp [swept, Function.comp_def]

theorem keyed_swept (h : Keyed m) : Keyed (m.swept n) :=
  List.forall_mem_map.mpr fun e hmem => h e hmem

theorem Distinct.swept (h : m.Distinct) : (m.swept n).Distinct := by
  rw [Distinct, keys_swept]
  exact h

theorem all_swept : (m.swept n).all = m.all.map (Policy.swept n) := by
  simp [all, swept, Function.comp_def]

theorem ofTenant_swept (tenantId : Value) :
    (m.swept n).ofTenant tenantId = (m.ofTenant tenantId).map (Policy.swept n) := by
  have htenant : (fun p : Policy => (Stored.tenant p).same tenantId) ∘ Policy.swept n =
      fun p => (Stored.tenant p).same tenantId := rfl
  change (m.swept n).all.filter _ = (m.all.filter _).map _
  rw [all_swept, List.filter_map, htenant]

/-- A sweep after a later one finds nothing to do. -/
theorem swept_swept (h : ∀ e ∈ m.records, e.2.Expires n) (he : earlier.instant ≤ n.instant) :
    (m.swept n).swept earlier = m.swept n := by
  have hrecords : (m.swept n).records.map (fun (k, p) => (k, p.swept earlier)) = (m.swept n).records := by
    rw [swept, List.map_map]
    refine List.map_congr_left fun e hmem => ?_
    obtain ⟨es, hes, -⟩ := (h e hmem).again id
    exact congrArg (Prod.mk e.1) (Policy.swept_of_lapsed_eq_zero hes (Policy.lapsed_swept he))
  rw [swept, hrecords]

end MemoryStore

namespace Gate

/-! ## What expiring exceptions does -/

section Steps

variable {s t : GateState} {m : MemoryStore Policy} {p : Policy} {k : Key} {n now : Timestamp}

theorem expireOne_ok_iff {l : Loose PolicyException} {r : Bool × Loose PolicyException} :
    expireOne now l = .ok r ↔ ∃ e, l = .held e ∧ e.Expires now ∧ r = (e.lapses now, .held (e.swept now)) := by
  constructor
  · intro h
    obtain ⟨e, he, h⟩ := Reading.bind_eq_ok.mp h
    obtain ⟨b, hb, h⟩ := Reading.bind_eq_ok.mp h
    obtain ⟨hexpires, rfl⟩ := PolicyException.isLapsed_ok_iff.mp hb
    refine ⟨e, Loose.part_eq_ok.mp he, hexpires, ?_⟩
    unfold PolicyException.swept
    split at h <;> simp_all
  · rintro ⟨e, rfl, hexpires, rfl⟩
    refine Reading.bind_eq_ok.mpr ⟨e, Loose.part_eq_ok.mpr rfl, Reading.bind_eq_ok.mpr ⟨e.lapses now, ?_, ?_⟩⟩
    · exact PolicyException.isLapsed_ok_iff.mpr ⟨hexpires, rfl⟩
    · unfold PolicyException.swept
      cases e.lapses now <;> rfl

theorem expireEach_ok_iff : ∀ {ls : List (Loose PolicyException)} {rs : List (Bool × Loose PolicyException)},
    ls.mapM (expireOne now) = .ok rs ↔ ∃ es : List PolicyException, ls = es.map .held ∧ (∀ e ∈ es, e.Expires now) ∧
      rs = es.map fun e => (e.lapses now, .held (e.swept now))
  | [], rs => by
    rw [List.mapM_nil, Reading.pure_eq_ok]
    constructor
    · rintro rfl
      exact ⟨[], rfl, by simp, rfl⟩
    · rintro ⟨es, hes, -, rfl⟩
      rw [List.map_eq_nil_iff.mp hes.symm]
      rfl
  | l :: ls, rs => by
    rw [Reading.mapM_cons_eq_ok]
    simp only [expireOne_ok_iff, expireEach_ok_iff]
    constructor
    · rintro ⟨_, _, ⟨e, rfl, he, rfl⟩, ⟨es, rfl, hes, rfl⟩, rfl⟩
      exact ⟨e :: es, rfl, List.forall_mem_cons.mpr ⟨he, hes⟩, rfl⟩
    · rintro ⟨es, hls, hes, rfl⟩
      cases es with
      | nil => cases hls
      | cons e es =>
        obtain ⟨rfl, rfl⟩ := List.cons.inj hls
        obtain ⟨he, hes⟩ := List.forall_mem_cons.mp hes
        exact ⟨_, _, ⟨e, rfl, he, rfl⟩, ⟨es, rfl, hes, rfl⟩, rfl⟩

theorem outcome_expireIn (hs : Still m s) (hk : MemoryStore.keyOf p = .ok k) (hp : m.lookup k = some p) (hexpires : p.Expires now) :
    outcome (expireIn now p) s =
      (.ok (p.lapsed now), { s with policies := .memory (m.store k (p.swept now)) }) := by
  obtain ⟨es, hlist, hes⟩ := hexpires
  have hread : (es.map Loose.held).mapM (expireOne now) = .ok _ := expireEach_ok_iff.mpr ⟨es, rfl, hes, rfl⟩
  have hcount : (es.map fun e => (e.lapses now, Loose.held (e.swept now))).countP (·.1) = p.lapsed now := by
    rw [List.countP_map, Policy.lapsed, Policy.heldExceptions_of_list hlist]
    rfl
  unfold expireIn
  simp only [liftM_eq_ofReading, outcome_bind, outcome_ofReading, hlist, hread, hcount]
  split
  · next hpos =>
    let q : Policy := { p with exceptions := .held (es.map fun e => .held (e.swept now)) }
    have hkept : outcome (keep .policies q) s = (.ok (), { s with policies := .memory (m.store k q) }) := by
      have hput : (Store.memory m).put q = .ok (.memory (m.store k q)) :=
        Store.put_memory.mpr ⟨_, MemoryStore.put_ok.mpr ⟨k, hk, rfl⟩, rfl⟩
      rw [outcome_keep, show Shelf.policies.read s = .memory m from hs, hput]
      rfl
    rw [Policy.swept_of_lapsed_pos hlist hpos, List.map_map]
    change outcome (keep .policies q >>= fun _ => pure (p.lapsed now)) s = (.ok (p.lapsed now), _)
    rw [outcome_bind, hkept]
    rfl
  · next hpos =>
    have hzero : p.lapsed now = 0 := Nat.eq_zero_of_not_pos hpos
    rw [Policy.swept_of_lapsed_eq_zero hlist hzero, MemoryStore.store_of_lookup hp,
      ← show s.policies = .memory m from hs]
    rfl

/-- Expiring the exceptions of one policy puts it back swept, if it can be swept. -/
theorem returns_expireIn (hs : Still m s) (hk : MemoryStore.keyOf p = .ok k) (hp : m.lookup k = some p) {count : Nat} :
    Returns (expireIn now p) s count t ↔
      p.Expires now ∧ count = p.lapsed now ∧ t = { s with policies := .memory (m.store k (p.swept now)) } := by
  have hwhen : Returns (expireIn now p) s count t → p.Expires now := by
    intro h
    obtain ⟨ls, s₁, hlist, h⟩ := returns_bind.mp h
    obtain ⟨rs, s₂, hread, -⟩ := returns_bind.mp h
    obtain ⟨hlist, -⟩ := returns_ofReading.mp hlist
    obtain ⟨es, rfl, hes, -⟩ := expireEach_ok_iff.mp (returns_ofReading.mp hread).1
    exact ⟨es, hlist, hes⟩
  constructor
  · intro h
    have hexpires := hwhen h
    rw [Returns, outcome_expireIn hs hk hp hexpires] at h
    cases h
    exact ⟨hexpires, rfl, rfl⟩
  · rintro ⟨hexpires, rfl, rfl⟩
    exact outcome_expireIn hs hk hp hexpires

/-- Expiring the exceptions of one policy after the other sweeps those that are left. -/
theorem returns_expireEach : ∀ {rest done : List (Key × Policy)} {m : MemoryStore Policy} {s : GateState} {counts : List Nat},
    Still m s → m.Distinct → Keyed m → m.records = done ++ rest →
      (Returns ((rest.map (·.2)).mapM (expireIn now)) s counts t ↔
        (∀ e ∈ rest, e.2.Expires now) ∧ counts = rest.map (fun e => e.2.lapsed now) ∧
          t = { s with policies := .memory { m with records := done ++ rest.map fun (k, p) => (k, p.swept now) } })
  | [], done, m, s, counts, hs, _, _, hrecords => by
    have hsame : { s with policies := .memory { m with records := done ++ [] } } = s := by
      rw [← hrecords, ← show s.policies = .memory m from hs]
    simp only [List.map_nil, returns_mapM_nil, hsame]
    simp
  | (k, p) :: rest, done, m, s, counts, hs, hdistinct, hkeyed, hrecords => by
    have hmem : (k, p) ∈ m.records := by simp [hrecords]
    have hstore : (m.store k (p.swept now)).records = (done ++ [(k, p.swept now)]) ++ rest := by
      rw [hdistinct.store_eq hrecords, List.append_cons]
    have hkeyed' : Keyed (m.store k (p.swept now)) := hkeyed.store (hkeyed (k, p) hmem)
    have hrest : ∀ {counts}, Returns ((rest.map (·.2)).mapM (expireIn now))
        { s with policies := .memory (m.store k (p.swept now)) } counts t ↔ _ := fun {counts} =>
      returns_expireEach rfl (hdistinct.store k (p.swept now)) hkeyed' hstore
    rw [List.map_cons, returns_mapM_cons]
    simp only [returns_expireIn hs (hkeyed (k, p) hmem) (hdistinct.lookup_of_mem hmem)]
    constructor
    · rintro ⟨_, _, counts, ⟨hp, rfl, rfl⟩, h, rfl⟩
      obtain ⟨hexpires, rfl, rfl⟩ := hrest.mp h
      refine ⟨List.forall_mem_cons.mpr ⟨hp, hexpires⟩, rfl, ?_⟩
      simp [MemoryStore.store]
    · rintro ⟨hexpires, rfl, rfl⟩
      obtain ⟨hp, hexpires⟩ := List.forall_mem_cons.mp hexpires
      refine ⟨_, _, _, ⟨hp, rfl, rfl⟩, hrest.mpr ⟨hexpires, rfl, ?_⟩, rfl⟩
      simp [MemoryStore.store]

/-- **Expiring exceptions sweeps the policies on record**, if they can be swept, and does nothing else. -/
theorem returns_expireExceptions (hs : Still m s) (hdistinct : m.Distinct) (hkeyed : Keyed m) {count : Nat} :
    Returns (expireExceptions (some n)) s count t ↔
      (∀ e ∈ m.records, e.2.Expires n) ∧ count = statusChanges m (m.swept n) ∧
        t = { s with policies := .memory (m.swept n) } := by
  have hall : ∀ {ps : List Policy} {t}, Returns (all .policies) s ps t ↔ ps = m.all ∧ t = s := by
    intro ps t
    unfold Returns
    rw [outcome_all, show Shelf.policies.read s = .memory m from hs, Prod.mk.injEq, Store.all, Except.ok.injEq]
    exact and_congr eq_comm eq_comm
  have heach : ∀ {counts}, Returns (m.all.mapM (expireIn n)) s counts t ↔ _ := fun {counts} =>
    returns_expireEach hs hdistinct hkeyed (List.nil_append _).symm
  have hsum : (m.records.map fun e => e.2.lapsed n).foldl (· + ·) 0 = statusChanges m (m.swept n) := by
    rw [statusChanges_swept, List.sum_eq_foldl, MemoryStore.all, List.map_map]
    rfl
  simp only [expireExceptions, Option.getD_some, returns_bind, returns_clock, returns_pure]
  constructor
  · rintro ⟨_, _, ⟨rfl, rfl⟩, ps, _, hps, counts, _, h, rfl, rfl⟩
    obtain ⟨rfl, rfl⟩ := hall.mp hps
    obtain ⟨hexpires, rfl, rfl⟩ := heach.mp h
    exact ⟨hexpires, hsum, rfl⟩
  · rintro ⟨hexpires, rfl, rfl⟩
    exact ⟨_, _, ⟨rfl, rfl⟩, _, _, hall.mpr ⟨rfl, rfl⟩, _, _, heach.mpr ⟨hexpires, rfl, rfl⟩, hsum.symm, rfl⟩

theorem rankedOf_swept (hs : Still m s) (tenantId : Value) :
    rankedOf { s with policies := .memory (m.swept n) } tenantId = (rankedOf s tenantId).map (List.map (Policy.swept n)) := by
  have hpriority : ∀ p : Policy, (p.swept n).priority = p.priority := fun _ => rfl
  unfold rankedOf
  rw [show s.policies = .memory m from hs]
  change sortDescending (·.priority) ((m.swept n).ofTenant tenantId) =
    (sortDescending (·.priority) (m.ofTenant tenantId)).map _
  rw [MemoryStore.ofTenant_swept]
  exact sortDescending_map hpriority (m.ofTenant tenantId)

theorem outcome_evaluatePolicies_swept {others : Collaborators} {ds : List Dependency} {tenantId : Value}
    {c : EvaluationContext} {cancel : Cancellation} (hs : Still m s) (hc : c.now = some now) (hn : n.instant ≤ now.instant) :
    outcome (evaluatePolicies others ds tenantId c cancel) { s with policies := .memory (m.swept n) } =
      ((outcome (evaluatePolicies others ds tenantId c cancel) s).1,
        { (outcome (evaluatePolicies others ds tenantId c cancel) s).2 with policies := .memory (m.swept n) }) := by
  have hbefore := outcome_policiesOf tenantId s
  have hafter := outcome_policiesOf tenantId { s with policies := .memory (m.swept n) }
  rw [rankedOf_swept hs] at hafter
  unfold evaluatePolicies
  cases hranked : rankedOf s tenantId with
  | error f =>
    rw [hranked] at hbefore hafter
    rw [outcome_bind_error hbefore, outcome_bind_error hafter]
  | ok ranked =>
    rw [hranked] at hbefore hafter
    rw [outcome_bind_ok hbefore, outcome_bind_ok hafter, evaluateAll_swept hc hn]
    exact blind_evaluateAll others ranked c ds tenantId cancel s (.memory (m.swept n))

end Steps
end Gate

/-- **Expiring exceptions is not seen by evaluations.** Wherever requests lead, expiring exceptions returns
just when every policy on record has a list of exceptions, each with an expiry if it is active, and if one is,
the time has an offset. It then marks as expired those that have lapsed, and changes nothing else; it returns how many have another status
now. Doing so again for an earlier time of the same kind returns zero and changes nothing. And no evaluation at that time or
later, of one dependency or of a batch, is any different. -/
theorem expiry_unseen {allowed : Request → Prop} {s : GateState} (h : Reachable allowed s) (n : Timestamp) :
    ∃ m, s.policies = .memory m ∧
      ((∃ count t, Returns (expireExceptions (some n)) s count t) ↔ ∀ e ∈ m.records, e.2.Expires n) ∧
      ∀ count t, Returns (expireExceptions (some n)) s count t →
        t = { s with policies := .memory (m.swept n) } ∧ count = statusChanges m (m.swept n) ∧
        (∀ earlier, earlier.instant ≤ n.instant → (n.offset.isSome = true → earlier.offset.isSome = true) →
          Returns (expireExceptions (some earlier)) t 0 t) ∧
        ∀ c now, c.now = some now → n.instant ≤ now.instant → ∀ tenantId,
          (∀ d, evaluateDependency d ((m.swept n).ofTenant tenantId) c = evaluateDependency d (m.ofTenant tenantId) c) ∧
          ∀ others ds cancel,
            outcome (evaluatePolicies others ds tenantId c cancel) t =
              ((outcome (evaluatePolicies others ds tenantId c cancel) s).1,
                { (outcome (evaluatePolicies others ds tenantId c cancel) s).2 with policies := t.policies }) := by
  obtain ⟨m, hs, hm⟩ := h.upheld
  have hreturns : ∀ {count t}, Returns (expireExceptions (some n)) s count t ↔ _ := fun {count t} =>
    returns_expireExceptions hs hm.distinct hm.keyed
  refine ⟨m, hs, ⟨?_, fun hexpires => ?_⟩, fun count t hr => ?_⟩
  · rintro ⟨count, t, hr⟩
    exact (hreturns.mp hr).1
  · exact ⟨_, _, hreturns.mpr ⟨hexpires, rfl, rfl⟩⟩
  · obtain ⟨hexpires, rfl, rfl⟩ := hreturns.mp hr
    refine ⟨rfl, rfl, fun earlier he ho => ?_, fun c now hc hn tenantId => ⟨fun d => ?_, fun others ds cancel => ?_⟩⟩
    · have hsame : (m.swept n).swept earlier = m.swept n := MemoryStore.swept_swept hexpires he
      have hstill : Still (m.swept n) { s with policies := .memory (m.swept n) } := rfl
      have hkeyed := MemoryStore.keyed_swept (n := n) hm.keyed
      refine (returns_expireExceptions hstill hm.distinct.swept hkeyed).mpr ⟨?_, ?_, by rw [hsame]⟩
      · exact List.forall_mem_map.mpr fun e hmem => (hexpires e hmem).again ho
      · rw [statusChanges_swept, MemoryStore.all_swept, List.map_map]
        exact (List.sum_eq_zero_iff_forall_eq_nat.mpr (List.forall_mem_map.mpr fun p _ => Policy.lapsed_swept he)).symm
    · rw [MemoryStore.ofTenant_swept, evaluateDependency_swept hc hn]
    · exact outcome_evaluatePolicies_swept hs hc hn

section Sample

open Sample

/-- The service after it was asked for an exception that expires at that very moment. -/
def waived : GateState :=
  (outcome (Request.addException "p" { endless with expiresAt := some moment }).run created).2

theorem waived_reachable : Reachable Request.ofService waived := .request created_reachable trivial

/-- At its expiry the exception is marked, once, and an evaluation then does not tell. -/
theorem expiry_unseen_waived :
    Reachable Request.ofService waived ∧ ∃ t, Returns (expireExceptions (some moment)) waived 1 t ∧
      Returns (expireExceptions (some moment)) t 0 t ∧
      (outcome (evaluatePolicies .none [dependency "lib"] "t" { EvaluationContext.empty with now := some moment }
        fun _ _ => false) t).1 =
      (outcome (evaluatePolicies .none [dependency "lib"] "t" { EvaluationContext.empty with now := some moment }
        fun _ _ => false) waived).1 := by
  have hr : Returns (expireExceptions (some moment)) waived 1 (outcome (expireExceptions (some moment)) waived).2 := rfl
  obtain ⟨m, -, -, hunseen⟩ := expiry_unseen waived_reachable moment
  obtain ⟨-, -, hagain, hevaluations⟩ := hunseen _ _ hr
  refine ⟨waived_reachable, _, hr, hagain moment le_rfl id, ?_⟩
  rw [((hevaluations _ moment rfl le_rfl "t").2 .none [dependency "lib"] fun _ _ => false)]

end Sample

end SupplyGate
