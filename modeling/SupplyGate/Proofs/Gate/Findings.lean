import Mathlib.Data.List.Flatten
import SupplyGate.Proofs.Gate.Planned
import SupplyGate.Proofs.Policy.PlainText
import SupplyGate.Proofs.Policy.RuleIds

/-!
# Findings of different rules

A course finds at most one thing for each rule of the policies (`Course.Draws`). The text by which a finding
is found again ends with the rule and the dependency, and an id that was given out has no bar. So where the
rules of the policies have different ids that were given out, the findings on one dependency have different
texts, and their records are different violations (`Course.separate_ending`).
-/

namespace SupplyGate

open MemoryStore (Filing recorded)

/-- The ids of the rules of some policies. -/
def ruleIds (policies : List Policy) : List Value := policies.flatMap fun p => p.rules.map (·.id)

theorem nodup_ruleIds_filter {policies : List Policy} (h : (ruleIds policies).Nodup) (f : Policy → Bool) :
    (ruleIds (policies.filter f)).Nodup :=
  h.sublist (List.filter_sublist.flatMap _)

theorem nodup_ruleIds_perm {policies policies' : List Policy} (h : (ruleIds policies).Nodup)
    (hperm : policies'.Perm policies) : (ruleIds policies').Nodup :=
  (hperm.flatMap fun _ _ => .refl _).nodup_iff.mpr h

/-- The policies that take effect are some of the policies, in another order. -/
theorem nodup_ruleIds_active {policies order : List Policy} (h : (ruleIds policies).Nodup)
    (horder : Policy.active policies = .ok order) : (ruleIds order).Nodup :=
  nodup_ruleIds_perm (nodup_ruleIds_filter h _) (Policy.active_perm horder)

/-! ## Which rules a course draws on -/

/-- The findings of a course are of rules with these ids, in this order, of each at most one. -/
def Course.Draws (ids : List Value) (x : Course) : Prop := (x.findings.map (·.ruleId)).Sublist ids

namespace Course.Draws

variable {α : Type} {ids ids' : List Value}

theorem empty : Draws ids .empty := List.nil_sublist ids

theorem note {n : Note} (h : n.findings = []) : Draws ids (.note n) := by
  simp [Draws, Course.findings, Course.note, h]

theorem halt {f : Fault} {spent : Bool} : Draws ids (.halt f spent) := List.nil_sublist ids

theorem andThen {x y : Course} (hx : Draws ids x) (hy : Draws ids' y) : Draws (ids ++ ids') (x.andThen y) := by
  unfold Draws Course.andThen
  split
  · exact hx.trans (List.sublist_append_left _ _)
  · have hxy := List.Sublist.append hx hy
    simpa [Course.findings] using hxy

theorem reading {r : Reading α} {f : α → Course} (h : ∀ a, r = .ok a → Draws ids (f a)) : Draws ids (.reading r f) := by
  cases r with
  | error e => exact halt
  | ok a => exact h a rfl

theorem inOrder {f : α → Course} {g : α → List Value} (h : ∀ a, Draws (g a) (f a)) :
    ∀ as : List α, Draws (as.flatMap g) (.inOrder f as)
  | [] => empty
  | a :: as => (h a).andThen (inOrder h as)

end Course.Draws

section Courses

variable {d : Dependency} {data : EvaluationData} {c : EvaluationContext} {now : Timestamp}

theorem ruleCourse_draws (p : Policy) (r : Rule) : (ruleCourse d data c now p r).Draws [r.id] := by
  unfold ruleCourse
  split
  · refine .reading fun o _ => ?_
    cases o with
    | some e => exact .note rfl
    | none =>
      refine .reading fun outcome _ => ?_
      split
      · refine .reading fun topic _ => .reading fun _ _ => ?_
        split
        · exact List.Sublist.refl [r.id]
        · exact .halt
      · exact .note rfl
  · exact .empty

theorem policyCourse_draws (p : Policy) : (policyCourse d data c now p).Draws (p.rules.map (·.id)) := by
  refine .reading fun applies _ => ?_
  split
  · have hnote : (Course.note (.taken p.id)).Draws [] := .note rfl
    have hrules : (Course.inOrder (ruleCourse d data c now p) p.rules).Draws (p.rules.flatMap fun r => [r.id]) :=
      .inOrder (ruleCourse_draws p) p.rules
    rw [List.map_eq_flatMap]
    exact hnote.andThen hrules
  · exact .empty

/-- A course draws on the rules of the policies that take effect, in their order. -/
theorem dependencyCourse_draws {policies order : List Policy} (horder : Policy.active policies = .ok order) :
    (dependencyCourse d c now policies).Draws (ruleIds order) := by
  refine .reading fun data _ => .reading fun order' horder' => ?_
  obtain rfl : order = order' := Except.ok.inj (horder.symm.trans horder')
  exact .inOrder policyCourse_draws order

/-- Rules with different ids have different findings. -/
theorem nodup_ruleId_findings {policies : List Policy} (h : (ruleIds policies).Nodup) :
    ((dependencyCourse d c now policies).findings.map (·.ruleId)).Nodup := by
  cases horder : Policy.active policies with
  | ok order => exact (nodup_ruleIds_active h horder).sublist (dependencyCourse_draws horder)
  | error f =>
    have hnone : (dependencyCourse d c now policies).Draws [] := .reading fun data _ => .reading fun order ho => by
      rw [horder] at ho
      cases ho
    exact List.nodup_nil.sublist hnone

end Courses

/-! ## Texts of findings -/

/-- Where the last parts of two texts have no bar, they are the same if the texts are. -/
theorem bar_append_inj {a a' b b' : List Char} (hb : '|' ∉ b) (hb' : '|' ∉ b') (h : a ++ '|' :: b = a' ++ '|' :: b') :
    b = b' := by
  have hreverse : b.reverse ++ '|' :: a.reverse = b'.reverse ++ '|' :: a'.reverse := by
    simpa using congrArg List.reverse h
  exact List.reverse_injective (Identity.append_bar_inj (by simpa using hb) (by simpa using hb') hreverse).1

/-- Findings on one dependency that have one text are of rules with one id, if these were given out. -/
theorem ruleId_eq_of_key {v w : Violation} {i j : Nat} (hd : v.dependency = w.dependency) (hv : v.ruleId = ruleId i)
    (hw : w.ruleId = ruleId j) (h : v.key = w.key) : v.ruleId = w.ruleId := by
  have htext : v.ruleId.rendered.toList = w.ruleId.rendered.toList := by
    have hkeys := congrArg String.toList h
    rw [v.key_eq, w.key_eq, Identity.toList_key, Identity.toList_key] at hkeys
    simp only [Violation.identity, hd, ← List.cons_append, ← List.append_assoc] at hkeys
    refine bar_append_inj ?_ ?_ (List.append_cancel_right hkeys)
    · rw [hv]
      exact (Identity.tells_textOf .rule i).1
    · rw [hw]
      exact (Identity.tells_textOf .rule j).1
  rw [hv, hw] at htext ⊢
  exact congrArg Value.str (String.toList_injective htext)

section Texts

variable {d : Dependency} {c : EvaluationContext} {now : Timestamp} {policies : List Policy} {n : Nat}

/-- Findings of rules with different ids that were given out have different texts. -/
theorem nodup_key_findings (h : (ruleIds policies).Nodup) (hlabels : ∀ p ∈ policies, Labelled n p.rules) :
    ((dependencyCourse d c now policies).findings.map Violation.key).Nodup := by
  have hids : ((dependencyCourse d c now policies).findings.map (·.ruleId)).Nodup := nodup_ruleId_findings h
  have hfinding : ∀ v ∈ (dependencyCourse d c now policies).findings, v.dependency = d ∧ ∃ i, v.ruleId = ruleId i := by
    intro v hv
    obtain ⟨p, hp, r, hr, outcome, topic, metadata, -, rfl⟩ := violationOf_of_mem_findings hv
    obtain ⟨i, -, hi⟩ := hlabels p hp r hr
    exact ⟨rfl, i, hi⟩
  refine List.Nodup.map_on (fun v hv w hw hkey => ?_) (List.Nodup.of_map _ hids)
  obtain ⟨hvd, i, hi⟩ := hfinding v hv
  obtain ⟨hwd, j, hj⟩ := hfinding w hw
  exact List.inj_on_of_nodup_map hids hv hw (ruleId_eq_of_key (hvd.trans hwd.symm) hi hj hkey)

end Texts

/-! ## Records of findings -/

/-- A violation with the text of this one is on record under the key of its id. -/
def MemoryStore.Lists (m : MemoryStore Violation) (v : Violation) : Prop :=
  ∃ k w, v.id.asKey = .ok k ∧ m.lookup k = some w ∧ w.key = v.key

/-- Each rule that triggered has a violation of its own: there are as many findings as rules that triggered, with
different ids, and each is on record. -/
structure Evaluation.Separate (m : MemoryStore Violation) (e : Evaluation) : Prop where
  triggered : e.rulesTriggered = .int e.findings.length
  ids : (e.findings.map (·.id)).Nodup
  listed : ∀ v ∈ e.findings, m.Lists v

section Records

variable {now : Timestamp} {m m' : MemoryStore Violation} {vs : List Violation} {events : List Event}

/-- The record of a finding that was filed is on record, with the text of the finding. -/
theorem MemoryStore.Filing.lists (h : Filing now m vs m' events) (hm : m.Filed) {v : Violation} (hv : v ∈ vs) :
    m'.Lists (recorded now m' v) ∧ (recorded now m' v).key = v.key := by
  obtain ⟨⟨k, w⟩, hw⟩ := Option.isSome_iff_exists.mp (h.found hm v hv)
  have hfiled := h.filed hm
  have hkey : w.key = v.key := hfiled.key_of_byIndex hw
  have hlookup := (byIndex_eq_some.mp hw).2.2
  have hrecorded : recorded now m' v = Finding.seenAgain now v w := by rw [recorded, hw]
  rw [hrecorded, Lists, Finding.key_seenAgain, Finding.id_seenAgain]
  exact ⟨⟨k, w, hfiled.keyed.lookup hlookup, hlookup, rfl⟩, hkey⟩

/-- Violations on record with one id have one text. -/
theorem MemoryStore.Lists.key_eq {v w : Violation} (hv : m.Lists v) (hw : m.Lists w) (hid : v.id = w.id) :
    v.key = w.key := by
  obtain ⟨k, a, hk, ha, hav⟩ := hv
  obtain ⟨l, b, hl, hb, hbw⟩ := hw
  obtain rfl : k = l := Except.ok.inj (hk.symm.trans ((congrArg Value.asKey hid).trans hl))
  obtain rfl : a = b := Option.some.inj (ha.symm.trans hb)
  exact hav.symm.trans hbw

/-- A tally counts its findings. -/
def Tally.Counts (t : Tally) : Prop := t.rulesTriggered = t.violations.length + t.warnings.length

theorem Tally.Counts.add {t : Tally} (h : t.Counts) (records : Violation → Violation) (n : Note) :
    (t.add records n).Counts := by
  cases n with
  | found r v =>
    unfold Counts at h ⊢
    unfold Tally.add Tally.addFinding
    by_cases hb : r.isBlocking = true
    · simp only [hb, if_true, List.length_append, List.length_singleton]
      omega
    · simp only [hb, Bool.false_eq_true, if_false, List.length_append, List.length_singleton]
      omega
  | _ => exact h

theorem Course.counts_tally (records : Violation → Violation) (x : Course) : (x.tally records).Counts := by
  have hfold : ∀ (notes : List Note) (t : Tally), t.Counts → (notes.foldl (Tally.add records) t).Counts := by
    intro notes
    induction notes with
    | nil => exact fun _ => id
    | cons n notes ih => exact fun t ht => ih _ (ht.add records n)
  exact hfold x.notes .empty rfl

/-- A course that goes through ends with an evaluation that counts its findings. -/
theorem Course.rulesTriggered_ending {records : Violation → Violation} {x : Course} {d : Dependency} {e : Evaluation}
    (h : x.ending records d now = .ok e) : e.rulesTriggered = .int e.findings.length := by
  obtain ⟨hstop, -⟩ := perm_ending h
  unfold ending at h
  rw [result_of_none hstop] at h
  cases h
  rw [Evaluation.findings, List.length_append]
  exact congrArg (fun n : Nat => Value.int n) (x.counts_tally records)

/-- **Findings with different texts have different records.** Where the findings of a course were filed, and their
texts are different, the evaluation with which it ends has a violation for each rule that triggered. -/
theorem Course.separate_ending {x : Course} {d : Dependency} {e : Evaluation}
    (he : x.ending (recorded now m') d now = .ok e) (h : Filing now m vs m' events) (hm : m.Filed)
    (hsub : x.findings ⊆ vs) (hkeys : (x.findings.map Violation.key).Nodup) : e.Separate m' := by
  have hperm := (Course.perm_ending he).2
  have hlisted : ∀ v ∈ x.findings, m'.Lists (recorded now m' v) ∧ (recorded now m' v).key = v.key :=
    fun v hv => h.lists hm (hsub hv)
  refine ⟨rulesTriggered_ending he, ?_, fun v hv => ?_⟩
  · rw [(hperm.map _).nodup_iff, List.map_map]
    refine List.Nodup.map_on (fun v hv w hw hid => ?_) (List.Nodup.of_map _ hkeys)
    obtain ⟨hv', hvkey⟩ := hlisted v hv
    obtain ⟨hw', hwkey⟩ := hlisted w hw
    exact List.inj_on_of_nodup_map hkeys hv hw (hvkey.symm.trans ((hv'.key_eq hw' hid).trans hwkey))
  · obtain ⟨w, hw, rfl⟩ := List.mem_map.mp (hperm.mem_iff.mp hv)
    exact (hlisted w hw).1

end Records

end SupplyGate
