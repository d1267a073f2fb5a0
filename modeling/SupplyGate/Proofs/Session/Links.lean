import SupplyGate.Proofs.Risk.Lineage
import SupplyGate.Proofs.Session.Operations

/-!
# Links between assessments

An assessment that was made in place of another one names it, and is named by it: two writes, of which the
second one replaces what was there. So the assessments on record follow a lineage (`Traced`), of which one
direction of the links is all and the other one only the latest. The two agree just when no assessment was
superseded twice, and an operation breaks that just when it assesses one again that was superseded before
(`links_agree_iff`).
-/

namespace SupplyGate

open Gate Relation

/-! ## Assessments that follow a lineage -/

/-- The id of an assessment, or of none. -/
def linkTo (name : Option String) : Value := (name.map .str).getD .null

theorem linkTo_inj {x y : Option String} : linkTo x = linkTo y ↔ x = y := by
  cases x <;> cases y <;> simp [linkTo]

theorem linkTo_eq_str {x : Option String} {y : String} : linkTo x = .str y ↔ x = some y := by
  cases x <;> simp [linkTo]

theorem linkTo_eq_null {x : Option String} : linkTo x = .null ↔ x = none := by
  cases x <;> simp [linkTo]

/-- The assessment shows an entry of a lineage: what it supersedes, and what superseded it last. -/
structure Assessment.Shows (l : Lineage) (name : String) (previous : Option String) (a : Assessment) : Prop where
  id : a.id = .str name
  supersedes : a.supersedes = linkTo previous
  supersededBy : a.supersededBy = linkTo (l.latest name)

/-- The assessments on record follow a lineage. -/
structure Traced (l : Lineage) (as : MemoryStore Assessment) : Prop where
  grown : l.Grown
  keys : as.records.map (·.1) = l.names.map Key.str
  shown : ∀ name previous, (name, previous) ∈ l → ∃ a, as.lookup (.str name) = some a ∧ a.Shows l name previous

namespace MemoryStore

/-- The links of the assessments on record agree in both directions. -/
def LinksAgree (as : MemoryStore Assessment) : Prop :=
  ∀ a ∈ as.all, ∀ b ∈ as.all, b.supersedes = a.id ↔ a.supersededBy = b.id

/-- The second assessment on record is the one that superseded the first one. -/
def LeadsTo (as : MemoryStore Assessment) (a b : Assessment) : Prop :=
  a ∈ as.all ∧ b ∈ as.all ∧ a.supersededBy = b.id

/-- The second assessment on record supersedes the first one. -/
def FollowedBy (as : MemoryStore Assessment) (a b : Assessment) : Prop :=
  a ∈ as.all ∧ b ∈ as.all ∧ b.supersedes = a.id

/-- The second assessment goes back to the first one, by what each supersedes. -/
def Descends (as : MemoryStore Assessment) : Assessment → Assessment → Prop := ReflTransGen as.FollowedBy

end MemoryStore

namespace Traced

variable {l : Lineage} {as : MemoryStore Assessment} {a b c : Assessment}

theorem empty : Traced [] .empty := ⟨.empty, rfl, fun _ _ h => nomatch h⟩

theorem distinct (h : Traced l as) : as.Distinct := by
  unfold MemoryStore.Distinct
  rw [h.keys]
  exact h.grown.nodup.map fun _ _ => Key.str.inj

theorem mem_all {name : String} (hl : as.lookup (.str name) = some a) : a ∈ as.all :=
  List.mem_map_of_mem (MemoryStore.mem_of_lookup hl)

/-- Each record has an entry in the lineage. -/
theorem exists_entry_of_record (h : Traced l as) {k : Key} (hmem : (k, a) ∈ as.records) :
    ∃ name previous, k = .str name ∧ (name, previous) ∈ l ∧ a.Shows l name previous := by
  have hk : k ∈ l.names.map Key.str := h.keys ▸ List.mem_map_of_mem hmem
  obtain ⟨name, hname, rfl⟩ := List.mem_map.mp hk
  obtain ⟨⟨name, previous⟩, hentry, rfl⟩ := List.mem_map.mp hname
  obtain ⟨b, hb, hshows⟩ := h.shown name previous hentry
  obtain rfl : b = a := Option.some.inj (hb.symm.trans (h.distinct.lookup_of_mem hmem))
  exact ⟨name, previous, rfl, hentry, hshows⟩

theorem exists_entry (h : Traced l as) (ha : a ∈ as.all) :
    ∃ name previous, (name, previous) ∈ l ∧ a.Shows l name previous := by
  obtain ⟨⟨k, a⟩, hmem, rfl⟩ := List.mem_map.mp ha
  obtain ⟨name, previous, -, hentry⟩ := h.exists_entry_of_record hmem
  exact ⟨name, previous, hentry⟩

/-- Each name of the lineage is the id of an assessment on record. -/
theorem exists_assessment (h : Traced l as) {name : String} (hname : name ∈ l.names) :
    ∃ a ∈ as.all, a.id = .str name := by
  obtain ⟨⟨name, previous⟩, hentry, rfl⟩ := List.mem_map.mp hname
  obtain ⟨a, ha, hshows⟩ := h.shown name previous hentry
  exact ⟨a, mem_all ha, hshows.id⟩

/-- Assessments on record have different ids. -/
theorem eq_of_id (h : Traced l as) (ha : a ∈ as.all) (hb : b ∈ as.all) (hid : a.id = b.id) : a = b := by
  obtain ⟨⟨k, a⟩, hka, rfl⟩ := List.mem_map.mp ha
  obtain ⟨⟨k', b⟩, hkb, rfl⟩ := List.mem_map.mp hb
  obtain ⟨x, _, rfl, -, hx⟩ := h.exists_entry_of_record hka
  obtain ⟨y, _, rfl, -, hy⟩ := h.exists_entry_of_record hkb
  obtain rfl : x = y := by
    have htext : Value.str x = .str y := by rw [← hx.id, hid, hy.id]
    simpa using htext
  exact Option.some.inj ((h.distinct.lookup_of_mem hka).symm.trans (h.distinct.lookup_of_mem hkb))

/-- No assessment is on record twice. -/
theorem nodup_all (h : Traced l as) : as.all.Nodup := by
  refine List.Nodup.map_on ?_ (List.Nodup.of_map _ h.distinct)
  rintro ⟨k, a⟩ hk ⟨k', b⟩ hk' hab
  obtain rfl : a = b := hab
  obtain ⟨x, _, rfl, -, hx⟩ := h.exists_entry_of_record hk
  obtain ⟨y, _, rfl, -, hy⟩ := h.exists_entry_of_record hk'
  obtain rfl : x = y := by simpa [hx.id] using hy.id
  rfl

/-! ### What the links say -/

/-- One assessment supersedes another just when the lineage has it so. -/
theorem supersedes_iff {x y : String} {p q : Option String} (hx : a.Shows l x p) (hy : b.Shows l y q) :
    b.supersedes = a.id ↔ q = some x := by
  rw [hy.supersedes, hx.id, linkTo_eq_str]

theorem supersededBy_iff {x y : String} {p q : Option String} (hx : a.Shows l x p) (hy : b.Shows l y q) :
    a.supersededBy = b.id ↔ l.latest x = some y := by
  rw [hx.supersededBy, hy.id, linkTo_eq_str]

/-- What an assessment was superseded by supersedes it. -/
theorem supersedes_of_supersededBy (h : Traced l as) (ha : a ∈ as.all) (hb : b ∈ as.all)
    (hlink : a.supersededBy = b.id) : b.supersedes = a.id := by
  obtain ⟨x, p, -, hx⟩ := h.exists_entry ha
  obtain ⟨y, q, hy, hby⟩ := h.exists_entry hb
  have hmem := Lineage.mem_of_latest ((supersededBy_iff hx hby).mp hlink)
  exact (supersedes_iff hx hby).mpr (h.grown.previous_unique hy hmem)

/-- Links agree where no assessment was superseded twice. -/
theorem linksAgree_iff (h : Traced l as) : as.LinksAgree ↔ l.Unforked := by
  rw [h.grown.unforked_iff]
  constructor
  · intro hagree p x y hx hy
    obtain ⟨a, ha, hpa⟩ := h.exists_assessment (h.grown.known_of_mem hx)
    obtain ⟨b, hb, hshowsb⟩ := h.shown x _ hx
    obtain ⟨c, hc, hshowsc⟩ := h.shown y _ hy
    have hba : a.supersededBy = b.id :=
      (hagree a ha b (mem_all hb)).mp (by rw [hshowsb.supersedes, hpa]; rfl)
    have hca : a.supersededBy = c.id :=
      (hagree a ha c (mem_all hc)).mp (by rw [hshowsc.supersedes, hpa]; rfl)
    have htext : Value.str x = .str y := by rw [← hshowsb.id, ← hba, hca, hshowsc.id]
    simpa using htext
  · intro hone a ha b hb
    refine ⟨fun hlink => ?_, h.supersedes_of_supersededBy ha hb⟩
    obtain ⟨x, p, -, hx⟩ := h.exists_entry ha
    obtain ⟨y, q, hy, hby⟩ := h.exists_entry hb
    obtain rfl := (supersedes_iff hx hby).mp hlink
    exact (supersededBy_iff hx hby).mpr ((h.grown.unforked_iff.mpr hone).latest_iff.mpr hy)

/-- Links agree just when no two assessments on record supersede the same one. -/
theorem linksAgree_iff_one (h : Traced l as) : as.LinksAgree ↔
    ∀ b ∈ as.all, ∀ c ∈ as.all, b.supersedes = c.supersedes → b.supersedes = .null ∨ b = c := by
  rw [h.linksAgree_iff, h.grown.unforked_iff]
  constructor
  · intro hone b hb c hc heq
    obtain ⟨x, p, hx, hbx⟩ := h.exists_entry hb
    obtain ⟨y, q, hy, hcy⟩ := h.exists_entry hc
    obtain rfl : p = q := linkTo_inj.mp (by rw [← hbx.supersedes, heq, hcy.supersedes])
    cases p with
    | none => exact .inl hbx.supersedes
    | some p =>
      refine .inr (h.eq_of_id hb hc ?_)
      rw [hbx.id, hcy.id, hone p x y hx hy]
  · intro hone p x y hx hy
    obtain ⟨b, hb, hbx⟩ := h.shown x _ hx
    obtain ⟨c, hc, hcy⟩ := h.shown y _ hy
    rcases hone b (mem_all hb) c (mem_all hc) (by rw [hbx.supersedes, hcy.supersedes]) with hnull | rfl
    · rw [hbx.supersedes, linkTo_eq_null] at hnull
      cases hnull
    · have htext : Value.str x = .str y := by rw [← hbx.id, hcy.id]
      simpa using htext

/-! ### Chains -/

theorem isCurrent_iff : a.isCurrent = true ↔ a.supersededBy = .null := by
  unfold Assessment.isCurrent
  split
  · next h => simp [h]
  · next h => simpa using h

/-- A path of the lineage leads from one assessment on record to another one. -/
theorem leadsTo_of_path (h : Traced l as) {x e : String} (hpath : ReflTransGen (fun y z => l.latest y = some z) x e)
    (ha : a ∈ as.all) (hid : a.id = .str x) : ∃ c ∈ as.all, c.id = .str e ∧ ReflTransGen as.LeadsTo a c := by
  induction hpath with
  | refl => exact ⟨a, ha, hid, .refl⟩
  | @tail y z _ hyz ih =>
    obtain ⟨c, hc, hcid, hac⟩ := ih
    obtain ⟨d, hd, hdid⟩ := h.exists_assessment (Lineage.latest_mem_names hyz)
    obtain ⟨name, p, -, hshows⟩ := h.exists_entry hc
    obtain rfl : name = y := by simpa [hcid] using hshows.id.symm
    refine ⟨d, hd, hdid, hac.tail ⟨hc, hd, ?_⟩⟩
    rw [hshows.supersededBy, hyz, hdid]
    rfl

/-- Where an assessment leads to is told by its link. -/
theorem rightUnique_leadsTo (h : Traced l as) : Relator.RightUnique as.LeadsTo :=
  fun _ _ _ hb hc => h.eq_of_id hb.2.1 hc.2.1 (hb.2.2.symm.trans hc.2.2)

theorem not_leadsTo (h : Traced l as) (hcurrent : a.isCurrent = true) (b : Assessment) : ¬ as.LeadsTo a b := by
  rintro ⟨-, hb, hlink⟩
  obtain ⟨y, q, -, hy⟩ := h.exists_entry hb
  rw [isCurrent_iff.mp hcurrent, hy.id] at hlink
  simp at hlink

/-- From each assessment on record the links lead to exactly one that is current. -/
theorem existsUnique_current (h : Traced l as) (ha : a ∈ as.all) :
    ∃! c, c ∈ as.all ∧ c.isCurrent = true ∧ ReflTransGen as.LeadsTo a c := by
  obtain ⟨x, p, hentry, hx⟩ := h.exists_entry ha
  obtain ⟨e, he, hpath⟩ := h.grown.exists_end (Lineage.mem_names hentry)
  obtain ⟨c, hc, hcid, hac⟩ := h.leadsTo_of_path hpath ha hx.id
  obtain ⟨name, q, -, hshows⟩ := h.exists_entry hc
  obtain rfl : name = e := by simpa [hcid] using hshows.id.symm
  have hcurrent : c.isCurrent = true := isCurrent_iff.mpr (by rw [hshows.supersededBy, he]; rfl)
  refine ⟨c, ⟨hc, hcurrent, hac⟩, ?_⟩
  rintro d ⟨-, hdcurrent, had⟩
  exact end_unique h.rightUnique_leadsTo had hac (h.not_leadsTo hdcurrent) (h.not_leadsTo hcurrent)

end Traced

theorem MemoryStore.LinksAgree.followedBy_eq {as : MemoryStore Assessment} (h : as.LinksAgree) :
    as.FollowedBy = as.LeadsTo := by
  funext a b
  refine propext ⟨?_, ?_⟩
  · rintro ⟨ha, hb, hlink⟩
    exact ⟨ha, hb, (h a ha b hb).mp hlink⟩
  · rintro ⟨ha, hb, hlink⟩
    exact ⟨ha, hb, (h a ha b hb).mpr hlink⟩

/-! ### Agreeing links -/

section Agreeing

variable {l : Lineage} {as : MemoryStore Assessment}

/-- Where links agree, exactly one current assessment goes back to each one on record. -/
theorem MemoryStore.LinksAgree.existsUnique_current (h : as.LinksAgree) (ht : Traced l as) {a : Assessment}
    (ha : a ∈ as.all) : ∃! c, c ∈ as.all ∧ c.isCurrent = true ∧ as.Descends a c := by
  unfold Descends
  rw [h.followedBy_eq]
  exact ht.existsUnique_current ha

/-- The current assessments of a high risk can be listed: their scores are whole numbers. -/
theorem returns_highRisk {s : GateState} {days : Int} (has : s.assessments = .memory as) (hsound : Assessed days as)
    (tenantId : Value) :
    ∃ high, Returns (highRisk tenantId) s high s ∧ high.Perm ((as.ofTenant tenantId).filter Assessment.isHighRisk) := by
  have hread : Shelf.assessments.read s = .memory as := has
  have hfound : outcome (ofTenant .assessments tenantId) s = (.ok (as.ofTenant tenantId), s) := by
    rw [outcome_ofTenant, hread]
    rfl
  have hscored : ∀ a ∈ (as.ofTenant tenantId).filter Assessment.isHighRisk, ∃ n, a.overall = .int n := by
    intro a ha
    obtain ⟨e, he, rfl⟩ := List.mem_map.mp (List.mem_of_mem_filter (List.mem_of_mem_filter ha))
    obtain ⟨n, p, hscored⟩ := (hsound e he).2.scored
    exact ⟨n, hscored.overall⟩
  have hcomparable : Comparable (((as.ofTenant tenantId).filter Assessment.isHighRisk).map (·.overall)) := by
    intro v hv w hw
    obtain ⟨a, ha, rfl⟩ := List.mem_map.mp hv
    obtain ⟨b, hb, rfl⟩ := List.mem_map.mp hw
    obtain ⟨m, hm⟩ := hscored a ha
    obtain ⟨n, hn⟩ := hscored b hb
    rw [hm, hn]
    rfl
  obtain ⟨high, hhigh⟩ := sortDescending_ok hcomparable
  refine ⟨high, ?_, sortDescending_perm hhigh⟩
  rw [Returns, highRisk, outcome_bind_ok hfound]
  exact returns_ofReading.mpr ⟨hhigh, rfl⟩

/-- Where links agree, no two of the current assessments of a high risk go back to the same one. -/
theorem MemoryStore.LinksAgree.pairwise_highRisk (hagree : as.LinksAgree) (ht : Traced l as) {tenantId : Value}
    {high : List Assessment} (hperm : high.Perm ((as.ofTenant tenantId).filter Assessment.isHighRisk)) :
    high.Pairwise fun a b => ¬ ∃ o ∈ as.all, as.Descends o a ∧ as.Descends o b := by
  have hhigh : ∀ a ∈ high, a ∈ as.all ∧ a.isCurrent = true := by
    intro a ha
    obtain ⟨hmem, hrisk⟩ := List.mem_filter.mp (hperm.mem_iff.mp ha)
    exact ⟨List.mem_of_mem_filter hmem, (Bool.and_eq_true_iff.mp hrisk).2⟩
  have hnodup : high.Nodup := hperm.nodup_iff.mpr ((ht.nodup_all.filter _).filter _)
  refine hnodup.pairwise_of_forall_ne fun a ha b hb hne => ?_
  rintro ⟨o, ho, hoa, hob⟩
  obtain ⟨hmema, hcurrenta⟩ := hhigh a ha
  obtain ⟨hmemb, hcurrentb⟩ := hhigh b hb
  exact hne ((hagree.existsUnique_current ht ho).unique ⟨hmema, hcurrenta, hoa⟩ ⟨hmemb, hcurrentb, hob⟩)

end Agreeing

/-! ## Assessing -/

namespace Traced

variable {l : Lineage} {as : MemoryStore Assessment} {a previous : Assessment} {x p : String}

theorem not_mem_names (h : Traced l as) (hfree : as.lookup (.str x) = none) : x ∉ l.names := by
  intro hx
  obtain ⟨⟨x, o⟩, hentry, rfl⟩ := List.mem_map.mp hx
  obtain ⟨a, ha, -⟩ := h.shown x o hentry
  rw [hfree] at ha
  cases ha

theorem keys_store (h : Traced l as) (hfree : as.lookup (.str x) = none) (o : Option String) (a : Assessment) :
    (as.store (.str x) a).records.map (·.1) = (Lineage.names (l ++ [(x, o)])).map Key.str := by
  change (MemoryStore.replace (.str x) a as.records).map (·.1) = _
  rw [MemoryStore.replace_of_new hfree, List.map_append, h.keys, Lineage.names_append, List.map_append]
  rfl

/-- A new assessment without links continues the lineage by a name that supersedes none. -/
theorem add (h : Traced l as) (hid : a.id = .str x) (hunlinked : a.Unlinked) (hfree : as.lookup (.str x) = none) :
    Traced (l ++ [(x, none)]) (as.store (.str x) a) where
  grown := h.grown.add (h.not_mem_names hfree) (by simp)
  keys := h.keys_store hfree none a
  shown name o hmem := by
    have hnew := h.not_mem_names hfree
    rcases List.mem_append.mp hmem with hmem | hmem
    · obtain ⟨b, hb, hshows⟩ := h.shown name o hmem
      have hne : name ≠ x := fun he => hnew (he ▸ Lineage.mem_names hmem)
      refine ⟨b, ?_, hshows.id, hshows.supersedes, ?_⟩
      · rw [MemoryStore.lookup_store_ne (by simpa using hne), hb]
      · rw [hshows.supersededBy, Lineage.latest_append, if_neg (by simp)]
    · obtain ⟨rfl, rfl⟩ := Prod.mk.inj (List.mem_singleton.mp hmem)
      refine ⟨a, MemoryStore.lookup_store_self _ _, hid, hunlinked.supersedes, ?_⟩
      rw [hunlinked.supersededBy, Lineage.latest_append, if_neg (by simp), h.grown.latest_of_new hnew]
      rfl

/-- A new assessment in place of another one continues the lineage by a name that supersedes the other. -/
theorem supersede (h : Traced l as) (hid : a.id = .str x) (hunlinked : a.Unlinked) (hfree : as.lookup (.str x) = none)
    (hprevious : as.lookup (.str p) = some previous) (lastUpdated : Option Timestamp) :
    Traced (l ++ [(x, some p)]) ((as.store (.str x) { a with supersedes := previous.id }).store (.str p)
      { previous with supersededBy := a.id, lastUpdated }) := by
  obtain ⟨name, o, hname, hentry, hshows⟩ := h.exists_entry_of_record (MemoryStore.mem_of_lookup hprevious)
  obtain rfl : p = name := Key.str.inj hname
  have hnew := h.not_mem_names hfree
  have hne : p ≠ x := fun he => hnew (he ▸ Lineage.mem_names hentry)
  have hkey : Key.str p ≠ .str x := by simpa using hne
  refine ⟨h.grown.add hnew fun q hq => Option.some.inj hq ▸ Lineage.mem_names hentry, ?_, fun y q hmem => ?_⟩
  · have hthere : (as.store (.str x) { a with supersedes := previous.id }).lookup (.str p) = some previous := by
      rw [MemoryStore.lookup_store_ne hkey, hprevious]
    rw [← h.keys_store hfree (some p) { a with supersedes := previous.id }]
    exact MemoryStore.keys_replace _ hthere
  rcases List.mem_append.mp hmem with hmem | hmem
  · obtain ⟨b, hb, hshowsb⟩ := h.shown y q hmem
    have hyx : y ≠ x := fun he => hnew (he ▸ Lineage.mem_names hmem)
    by_cases hyp : y = p
    · subst hyp
      obtain rfl : b = previous := Option.some.inj (hb.symm.trans hprevious)
      refine ⟨_, MemoryStore.lookup_store_self _ _, hshowsb.id, hshowsb.supersedes, ?_⟩
      rw [Lineage.latest_append, if_pos rfl]
      exact hid
    · refine ⟨b, ?_, hshowsb.id, hshowsb.supersedes, ?_⟩
      · rw [MemoryStore.lookup_store_ne (by simpa using hyp), MemoryStore.lookup_store_ne (by simpa using hyx), hb]
      · rw [hshowsb.supersededBy, Lineage.latest_append, if_neg fun he => hyp (Option.some.inj he).symm]
  · obtain ⟨rfl, rfl⟩ := Prod.mk.inj (List.mem_singleton.mp hmem)
    refine ⟨{ a with supersedes := previous.id }, ?_, hid, hshows.id, ?_⟩
    · rw [MemoryStore.lookup_store_ne (Ne.symm hkey), MemoryStore.lookup_store_self]
    · rw [Lineage.latest_append, if_neg fun he => hne (Option.some.inj he), h.grown.latest_of_new hnew]
      exact hunlinked.supersededBy

end Traced

/-! ## Operations -/

/-- The operation is answered with an assessment in place of one that was superseded before. -/
def Operation.Forks (scoring : Scoring) (s : GateState) : Operation → Prop
  | .risk (.reassess assessmentId d vs assessedBy given) =>
    ∃ previous a s', Returns (getAssessment assessmentId) s previous s ∧
      previous.supersededBy ≠ .null ∧ Returns (reassess scoring assessmentId d vs assessedBy given) s a s'
  | _ => False

namespace Gate

variable {s s' t : GateState} {as : MemoryStore Assessment} {cs : MemoryStore BusinessContext}
  {ks : MemoryStore Criteria} {l : Lineage} {scoring : Scoring}

theorem returns_getAssessment (has : s.assessments = .memory as) {id : Value} {k : Key} {previous a : Assessment}
    (hid : id.asKey = .ok k) (hprevious : as.lookup k = some previous) :
    Returns (getAssessment id) s a s' ↔ a = previous ∧ s' = s := by
  have hfind : outcome (find .assessments id) s = (.ok (some previous), s) := by
    have hread : Shelf.assessments.read s = .memory as := has
    rw [outcome_find, hread]
    have hget : as.get id = .ok (some previous) := MemoryStore.get_ok.mpr ⟨k, hid, hprevious.symm⟩
    exact Prod.ext hget rfl
  unfold Returns getAssessment
  rw [outcome_bind_ok hfind]
  exact returns_pure

/-- The assessments on record follow a lineage, which is unforked if this one was and the operation does not fork. -/
structure Continues (l : Lineage) (forks : Prop) (t : GateState) : Prop where
  traced : ∃ l' as', t.assessments = .memory as' ∧ Traced l' as' ∧ (l'.Unforked ↔ l.Unforked ∧ ¬ forks)

theorem Continues.same {forks : Prop} (hforks : ¬ forks) (ht : Traced l as) (has : t.assessments = .memory as) :
    Continues l forks t := ⟨l, as, has, ht, by simp [hforks]⟩

theorem continues_assess (h : AtRisk as cs ks s) (ht : Traced l as) (d : Dependency) (vs : List Vulnerability)
    (tenantId : Value) (given : Option BusinessContext) (assessedBy : Value) :
    Continues l False (outcome (discard (assess scoring d vs tenantId given assessedBy)) s).2 := by
  have hsettles : Settles (Took s) (enterAssessment scoring d vs tenantId given assessedBy)
      (fun _ => Continues l False) (Continues l False) := by
    refine (settles_enterAssessment h scoring d vs tenantId given assessedBy).mono ?_ fun t htook => ?_
    · rintro a _ ⟨k, u, rfl, -, -, hk, hfree, hunlinked⟩
      obtain ⟨x, hx⟩ := hunlinked.id
      obtain rfl : Key.str x = k := Except.ok.inj ((MemoryStore.keyOf_text hx).symm.trans hk)
      exact ⟨_, _, rfl, ht.add hx hunlinked hfree, by simp [Lineage.unforked_append_none]⟩
    · exact .same id ht (h.took htook).assessments
  refine (RiskRequest.tells scoring (.assess d vs tenantId given assessedBy) s h.unlogged).ends ?_ ?_
  · rintro t events ⟨l', as', has, htraced, hforks⟩
    exact ⟨l', as', has, htraced, hforks⟩
  · exact Settles.ends hsettles.returning (.refl s) (fun _ _ ht => ht) fun _ ht => ht

theorem continues_reassess (h : AtRisk as cs ks s) (ht : Traced l as) (assessmentId : Value) (d : Option Dependency)
    (vs : Option (List Vulnerability)) (assessedBy : Value) (given : Option BusinessContext) :
    Continues l (Operation.Forks scoring s (.risk (.reassess assessmentId d vs assessedBy given)))
      (outcome (discard (reassess scoring assessmentId d vs assessedBy given)) s).2 := by
  have hkeyed : as.Every fun k a => MemoryStore.keyOf a = .ok k := by
    rintro ⟨k, a⟩ hmem
    obtain ⟨x, _, rfl, -, hshows⟩ := ht.exists_entry_of_record hmem
    exact MemoryStore.keyOf_text hshows.id
  have hsettles := settles_reassess h hkeyed scoring assessmentId d vs assessedBy given s (.refl s)
  rw [outcome_discard]
  rcases ho : outcome (reassess scoring assessmentId d vs assessedBy given) s with ⟨f | a, t⟩
  · refine .same ?_ ht (h.took (hsettles.2 f t ho)).assessments
    rintro ⟨_, a, s', -, -, hr⟩
    rw [Returns, ho] at hr
    cases hr
  · obtain ⟨k, j, previous, u, rfl, -, -, hk, hfree, hprevious, hid, b, hunlinked, rfl⟩ := hsettles.1 a t ho
    obtain ⟨x, hx⟩ := hunlinked.id
    obtain rfl : Key.str x = k :=
      Except.ok.inj ((MemoryStore.keyOf_text (a := { b with supersedes := previous.id }) hx).symm.trans hk)
    obtain ⟨p, o, rfl, hentry, hshows⟩ := ht.exists_entry_of_record (MemoryStore.mem_of_lookup hprevious)
    refine ⟨_, _, rfl, ht.supersede hx hunlinked hfree hprevious b.assessedAt, ?_⟩
    have hforks : Operation.Forks scoring s (.risk (.reassess assessmentId d vs assessedBy given)) ↔
        ¬ l.latest p = none := by
      rw [← linkTo_eq_null, ← hshows.supersededBy]
      constructor
      · rintro ⟨q, _, _, hq, hne, -⟩
        rwa [((returns_getAssessment h.assessments hid hprevious).mp hq).1] at hne
      · intro hne
        exact ⟨previous, _, _, (returns_getAssessment h.assessments hid hprevious).mpr ⟨rfl, rfl⟩, hne, ho⟩
    rw [Lineage.unforked_append_some, hforks, not_not]

/-- What an operation makes of assessments that follow a lineage. -/
theorem continues_operation (h : Served scoring s) (has : s.assessments = .memory as) (ht : Traced l as)
    (o : Operation) :
    Continues l (o.Forks scoring s) (outcome (o.run scoring) s).2 := by
  obtain ⟨as', cs, ks, hrisk, -⟩ := h.risk
  obtain rfl : as' = as := Store.memory.inj (hrisk.assessments.symm.trans has)
  cases o with
  | policy r =>
    have hlaw := (atRisk_law as' cs ks).keeps_request r fun _ _ _ _ _ _ => trivial
    exact .same id ht (hlaw s hrisk).1.assessments
  | risk r =>
    cases r with
    | setContext c =>
      change Continues l False (outcome (setContext c) s).2
      rw [outcome_setContext hrisk]
      split
      · exact .same id ht has
      · exact .same id ht has
      · exact .same id ht has
    | setCriteria tenantId overrides =>
      have hsettles : Settles (· = s) (setCriteria tenantId overrides) (fun _ => Continues l False)
          (Continues l False) := by
        refine (settles_setCriteria hrisk tenantId overrides).mono ?_ fun t ht' => ht' ▸ .same id ht has
        rintro c _ ⟨k, rfl, -⟩
        exact .same id ht has
      exact hsettles.discard.ends rfl (fun _ _ ht => ht) fun _ ht => ht
    | assess d vs tenantId given assessedBy => exact continues_assess hrisk ht d vs tenantId given assessedBy
    | reassess assessmentId d vs assessedBy given =>
      exact continues_reassess hrisk ht assessmentId d vs assessedBy given

end Gate

/-- Wherever operations lead, the assessments on record follow a lineage. -/
theorem Operated.traced {scoring : Scoring} {s : GateState} (h : Operated scoring s) :
    ∃ l as, s.assessments = .memory as ∧ Traced l as := by
  induction h with
  | start now ids => exact ⟨[], .empty, rfl, .empty⟩
  | @operation s o reached ih =>
    obtain ⟨l, as, has, ht⟩ := ih
    obtain ⟨l', as', has', ht', -⟩ := (continues_operation reached.served has ht o).traced
    exact ⟨l', as', has', ht'⟩

/-- **Links between assessments agree until one is superseded again.** Wherever operations lead: what an assessment
was superseded by supersedes it, and from each one on record these links lead to exactly one that is current. The
links agree in both directions just when no two assessments supersede the same one. Then exactly one current
assessment goes back to each one on record, and no two of a high risk that are listed go back to the same one. An
operation leaves links that agree just when they agreed and it does not assess one again that was superseded
before. -/
theorem links_agree_iff {scoring : Scoring} {s : GateState} (h : Operated scoring s) :
    ∃ as, s.assessments = .memory as ∧
      (∀ a ∈ as.all, ∀ b ∈ as.all, a.supersededBy = b.id → b.supersedes = a.id) ∧
      (∀ a ∈ as.all, ∃! c, c ∈ as.all ∧ c.isCurrent = true ∧ ReflTransGen as.LeadsTo a c) ∧
      (as.LinksAgree ↔
        ∀ b ∈ as.all, ∀ c ∈ as.all, b.supersedes = c.supersedes → b.supersedes = .null ∨ b = c) ∧
      (as.LinksAgree →
        (∀ a ∈ as.all, ∃! c, c ∈ as.all ∧ c.isCurrent = true ∧ as.Descends a c) ∧
        ∀ tenantId, ∃ high, Returns (highRisk tenantId) s high s ∧
          high.Pairwise fun a b => ¬ ∃ o ∈ as.all, as.Descends o a ∧ as.Descends o b) ∧
      ∀ o : Operation, ∃ as', (outcome (o.run scoring) s).2.assessments = .memory as' ∧
        (as'.LinksAgree ↔ as.LinksAgree ∧ ¬ o.Forks scoring s) := by
  obtain ⟨l, as, has, ht⟩ := h.traced
  have hsound : Assessed scoring.validityDays as := by
    obtain ⟨as', _, _, hrisk, hassessed⟩ := h.served.risk
    obtain rfl : as' = as := Store.memory.inj (hrisk.assessments.symm.trans has)
    exact hassessed
  refine ⟨as, has, fun a ha b hb => ht.supersedes_of_supersededBy ha hb, fun a ha => ht.existsUnique_current ha,
    ht.linksAgree_iff_one,
    fun hagree => ⟨fun a ha => hagree.existsUnique_current ht ha, fun tenantId => ?_⟩, fun o => ?_⟩
  · obtain ⟨high, hhigh, hperm⟩ := returns_highRisk has hsound tenantId
    exact ⟨high, hhigh, hagree.pairwise_highRisk ht hperm⟩
  · obtain ⟨l', as', has', ht', hforks⟩ := (continues_operation h.served has ht o).traced
    exact ⟨as', has', by rw [ht'.linksAgree_iff, ht.linksAgree_iff, hforks]⟩

section Sample

open Sample

/-- After an assessment was assessed again once, what is on record is linked by whatever operation follows as it
should be, unless that assesses the first one again. -/
theorem links_agree_iff_reassessed :
    Operated .standard reassessed ∧
      ∃ as, reassessed.assessments = .memory as ∧
        (∀ a ∈ as.all, ∃! c, c ∈ as.all ∧ c.isCurrent = true ∧ ReflTransGen as.LeadsTo a c) ∧
        ∀ o : Operation, ∃ as', (outcome (o.run .standard) reassessed).2.assessments = .memory as' ∧
          (as'.LinksAgree ↔ as.LinksAgree ∧ ¬ o.Forks .standard reassessed) := by
  obtain ⟨as, has, -, hcurrent, -, -, hforks⟩ := links_agree_iff reassessed_operated
  exact ⟨reassessed_operated, as, has, hcurrent, hforks⟩

/-- A vulnerability of the highest severity. -/
def severe : Vulnerability := { fixable with severity := .critical }

/-- Assess the first assessment again. -/
def assessFirstAgain : Operation := .risk (.reassess "assess_000000000001" none (some [severe]) "u" none)

/-- A service that assessed a dependency, and then assessed that first assessment again, twice. -/
def reassessedTwice : GateState :=
  (outcome (assessFirstAgain.run .standard) (outcome (assessFirstAgain.run .standard)
    (outcome (Operation.run .standard (.risk (.assess (dependency "lib") [severe] "t" none "u"))) gate).2).2).2

/-- The text that a value is, if it is one. -/
def textOf? : Value → Option String
  | .str t => some t
  | _ => none

theorem eq_str_of_textOf? {v : Value} {t : String} (h : textOf? v = some t) : v = .str t := by
  unfold textOf? at h
  split at h
  · rw [Option.some.inj h]
  · cases h

/-- The id of an assessment, what it is linked to, and whether it is listed as of a high risk for the tenant. -/
def standing (a : Assessment) : List (Option String) × Bool :=
  ([textOf? a.id, textOf? a.supersedes, textOf? a.supersededBy], a.tenantId.same "t" && a.isHighRisk)

/-- How the assessments on record stand. -/
def standings (s : GateState) : List (List (Option String) × Bool) :=
  match s.assessments with
  | .memory as => as.all.map standing
  | .documents _ => []

theorem standings_reassessedTwice : standings reassessedTwice = [
    ([some "assess_000000000001", none, some "assess_000000000003"], false),
    ([some "assess_000000000002", some "assess_000000000001", none], true),
    ([some "assess_000000000003", some "assess_000000000001", none], true)] := by
  decide +kernel

/-- The first assessment is superseded by two others, and linked to the second one only: both of them are current,
and listed as of a high risk. -/
theorem reassessed_twice_disagrees :
    Operated .standard reassessedTwice ∧
      ∃ as a b c, reassessedTwice.assessments = .memory as ∧ as.all = [a, b, c] ∧
        b.supersedes = a.id ∧ c.supersedes = a.id ∧ a.supersededBy = c.id ∧ a.supersededBy ≠ b.id ∧
        ∃ high, Returns (highRisk "t") reassessedTwice high reassessedTwice ∧ b ∈ high ∧ c ∈ high := by
  have hoperated : Operated .standard reassessedTwice :=
    .operation _ (.operation _ (.operation _ (.start moment {})))
  obtain ⟨as, _, _, hrisk, hsound⟩ := hoperated.served.risk
  have hstandings := standings_reassessedTwice
  unfold standings at hstandings
  rw [hrisk.assessments] at hstandings
  obtain ⟨a, rest, hall, ha, hrest⟩ := List.map_eq_cons_iff.mp hstandings
  obtain ⟨b, rest, rfl, hb, hrest⟩ := List.map_eq_cons_iff.mp hrest
  obtain ⟨c, rest, rfl, hc, hrest⟩ := List.map_eq_cons_iff.mp hrest
  obtain rfl := List.map_eq_nil_iff.mp hrest
  simp only [standing, Prod.mk.injEq, List.cons.injEq, and_true] at ha hb hc
  obtain ⟨⟨haid, -, haby⟩, -⟩ := ha
  obtain ⟨⟨hbid, hbsup, -⟩, hbhigh⟩ := hb
  obtain ⟨⟨hcid, hcsup, -⟩, hchigh⟩ := hc
  have hlisted : ∀ x ∈ as.all, (x.tenantId.same "t" && x.isHighRisk) = true →
      x ∈ (as.ofTenant "t").filter Assessment.isHighRisk := by
    intro x hx hhigh
    obtain ⟨htenant, hrisk⟩ := Bool.and_eq_true_iff.mp hhigh
    exact List.mem_filter.mpr ⟨List.mem_filter.mpr ⟨hx, htenant⟩, hrisk⟩
  obtain ⟨high, hhigh, hperm⟩ := returns_highRisk hrisk.assessments hsound "t"
  refine ⟨hoperated, as, a, b, c, hrisk.assessments, hall, ?_, ?_, ?_, ?_, high, hhigh, ?_, ?_⟩
  · rw [eq_str_of_textOf? hbsup, eq_str_of_textOf? haid]
  · rw [eq_str_of_textOf? hcsup, eq_str_of_textOf? haid]
  · rw [eq_str_of_textOf? haby, eq_str_of_textOf? hcid]
  · rw [eq_str_of_textOf? haby, eq_str_of_textOf? hbid]
    simp
  · exact hperm.mem_iff.mpr (hlisted b (by simp [hall]) hbhigh)
  · exact hperm.mem_iff.mpr (hlisted c (by simp [hall]) hchigh)

end Sample

end SupplyGate
