import Mathlib.Data.List.Induction
import SupplyGate.Policy.Finding
import SupplyGate.Proofs.Gate.Summary
import SupplyGate.Proofs.Policy.Validation
import SupplyGate.Proofs.Sample

/-!
# What conditions fold to

Each condition says how the next one is joined to the result so far, and there is no precedence. So the
result is that of the last condition that decides: a condition decides if it is the first, or holds and is
joined by "or", or does not hold and is joined by "and" (`Condition.Decides`). One more condition either
decides or leaves the result alone (`Running.Folded.advance`), and from this a whole list folds to what its
last deciding condition says (`conditions_fold`). The conditions that hold are the evidence of a finding,
each with the value that its field had.
-/

namespace SupplyGate

namespace Condition

/-! ## Conditions by themselves -/

/-- The condition says "and" or "or" to the next one, in whatever case, or nothing. -/
def Joins (c : Condition) : Prop :=
  c.joinNext.truthy = false ∨ c.joinNext.upperText = .ok "AND" ∨ c.joinNext.upperText = .ok "OR"

/-- The condition says "or" to the next one. -/
def joinsAny (c : Condition) : Bool :=
  c.joinNext.truthy && match c.joinNext.upperText with
    | .ok text => text == "OR"
    | .error _ => false

/-- What the field of a condition stands for. -/
def actual (table : FieldTable) (data : EvaluationData) (c : Condition) : Value :=
  match c.field with
  | .str name => Field.resolve table name data
  | _ => .null

/-- The condition holds by itself. -/
def holdsOn (table : FieldTable) (data : EvaluationData) (c : Condition) : Bool :=
  operatorTest c.operator (c.actual table data) c.value

theorem join_ok {c : Condition} (h : c.Joins) : c.join = .ok (if c.joinsAny then .any else .all) := by
  unfold join joinsAny
  cases ht : c.joinNext.truthy with
  | false => rfl
  | true =>
    rcases h with h | h | h
    · rw [ht] at h
      cases h
    · rw [if_pos rfl, Scale.readUpper, h]
      rfl
    · rw [if_pos rfl, Scale.readUpper, h]
      rfl

/-! ## Conditions that decide -/

/-- Of conditions, the one at a position decides what the result is so far: it is the first, or it is joined to
the ones before by "or" and holds, or by "and" and does not hold. -/
def Decides (holds : Condition → Bool) (cs : List Condition) (i : Nat) : Prop :=
  ∃ c, cs[i]? = some c ∧ (i = 0 ∨ ∃ p, cs[i - 1]? = some p ∧
    (p.joinsAny = true ∧ holds c = true ∨ p.joinsAny = false ∧ holds c = false))

/-- The condition at a position decides, and none after it does. -/
def LastDecides (holds : Condition → Bool) (cs : List Condition) (i : Nat) : Prop :=
  Decides holds cs i ∧ ∀ j, i < j → ¬ Decides holds cs j

variable {holds : Condition → Bool} {cs : List Condition} {c : Condition} {i j : Nat}

theorem Decides.lt (h : Decides holds cs i) : i < cs.length := by
  obtain ⟨c, hc, -⟩ := h
  exact (List.getElem?_eq_some_iff.mp hc).1

theorem LastDecides.unique (hi : LastDecides holds cs i) (hj : LastDecides holds cs j) : i = j := by
  rcases Nat.lt_trichotomy i j with h | h | h
  · exact absurd hj.1 (hi.2 j h)
  · exact h
  · exact absurd hi.1 (hj.2 i h)

/-- One more condition leaves alone which of the earlier ones decide. -/
theorem decides_snoc_of_lt (hi : i < cs.length) : Decides holds (cs ++ [c]) i ↔ Decides holds cs i := by
  unfold Decides
  rw [List.getElem?_append_left hi, List.getElem?_append_left (by omega : i - 1 < cs.length)]

/-- Whether one more condition decides hangs on the one before it. -/
theorem decides_snoc_self {p : Condition} :
    Decides holds (cs ++ [p] ++ [c]) (cs ++ [p]).length ↔ holds c = p.joinsAny := by
  unfold Decides
  have hlast : (cs ++ [p] ++ [c])[(cs ++ [p]).length]? = some c := by simp
  have hbefore : (cs ++ [p] ++ [c])[(cs ++ [p]).length - 1]? = some p := by simp
  rw [hlast, hbefore]
  cases hh : holds c <;> cases hp : p.joinsAny <;> simp [hh, hp]

/-- One more condition that decides is the last one to do so. -/
theorem lastDecides_snoc (h : Decides holds (cs ++ [c]) cs.length) : LastDecides holds (cs ++ [c]) cs.length := by
  refine ⟨h, fun j hj hd => ?_⟩
  have hlt := hd.lt
  rw [List.length_append, List.length_singleton] at hlt
  omega

/-- One more condition that does not decide leaves the last decision to the one that had it. -/
theorem LastDecides.snoc (h : LastDecides holds cs i) (hc : ¬ Decides holds (cs ++ [c]) cs.length) :
    LastDecides holds (cs ++ [c]) i := by
  refine ⟨(decides_snoc_of_lt h.1.lt).mpr h.1, fun j hj hd => ?_⟩
  have hlt := hd.lt
  rw [List.length_append, List.length_singleton] at hlt
  rcases Nat.lt_or_eq_of_le (Nat.le_of_lt_succ hlt) with hj' | rfl
  · exact h.2 j hj ((decides_snoc_of_lt hj').mp hd)
  · exact hc hd

end Condition

namespace ConditionOutcome

open Condition (Decides LastDecides)

variable {table : FieldTable} {data : EvaluationData} {cs : List Condition} {c : Condition} {run : Running}

/-! ## The running result -/

/-- How conditions are joined to the one after them. -/
def joinAfter (cs : List Condition) : Join := if (cs.getLast?.map Condition.joinsAny).getD false then .any else .all

/-- The running state says of the conditions so far what it should. -/
structure Running.Folded (table : FieldTable) (data : EvaluationData) (cs : List Condition) (run : Running) : Prop where
  unstarted : run.result = none ↔ cs = []
  result : ∀ b, run.result = some b →
    ∃ i c, LastDecides (·.holdsOn table data) cs i ∧ cs[i]? = some c ∧ c.holdsOn table data = b
  join : run.join = joinAfter cs
  holding : run.holding = cs.filter (·.holdsOn table data)
  actualValues : ∀ c ∈ cs, ∀ name, c.field = .str name →
    findEntry (.str name) run.actualValues = some (plain (c.actual table data))

theorem folded_start : Running.start.Folded table data [] where
  unstarted := by simp [Running.start]
  result b hb := by simp [Running.start] at hb
  join := rfl
  holding := rfl
  actualValues c hc := by simp at hc

/-- A condition is tested where its field is a text. -/
theorem advance_eq (hj : c.Joins) {name : String} (hf : c.field = .str name) (run : Running) :
    advance table data run c = .ok {
      result := some (joinResult run.result run.join (c.holdsOn table data))
      join := if c.joinsAny then .any else .all
      holding := if c.holdsOn table data then run.holding ++ [c] else run.holding
      actualValues := Value.insert (.str name) (plain (c.actual table data)) run.actualValues } := by
  unfold advance Condition.holdsOn Condition.actual
  rw [hf, Condition.join_ok hj]
  rfl

/-- What the field of a condition stood for stays on record, as a field stands for one value. -/
theorem findEntry_advance {name : String} {before : List (Scalar × Value)} (hf : c.field = .str name)
    (h : ∀ d ∈ cs, ∀ n, d.field = .str n → findEntry (.str n) before = some (plain (d.actual table data))) :
    ∀ d ∈ cs ++ [c], ∀ n, d.field = .str n →
      findEntry (.str n) (Value.insert (.str name) (plain (c.actual table data)) before) =
        some (plain (d.actual table data)) := by
  intro d hd n hn
  have hself : (Scalar.str name).same (.str name) = true := by simp [Scalar.same_str]
  by_cases hname : name = n
  · subst hname
    have hactual : d.actual table data = c.actual table data := by
      unfold Condition.actual
      rw [hn, hf]
    rw [findEntry_insert_self hself, hactual]
  · have hne := fun k => Scalar.same_str_ne (k := k) hname
    rw [findEntry_insert_ne (hne _ hself) hne]
    rcases List.mem_append.mp hd with hd | hd
    · exact h d hd n hn
    · rw [List.mem_singleton.mp hd, hf] at hn
      cases hn
      exact absurd rfl hname

/-- **One more condition.** It decides, or leaves the result to the last one that did. -/
theorem Running.Folded.advance (h : run.Folded table data cs) (hj : c.Joins) {name : String}
    (hf : c.field = .str name) :
    ∃ run', ConditionOutcome.advance table data run c = .ok run' ∧ run'.Folded table data (cs ++ [c]) := by
  refine ⟨_, advance_eq hj hf run, by simp, fun b hb => ?_, ?_, ?_, findEntry_advance hf h.actualValues⟩
  · obtain rfl := Option.some.inj hb
    have hself : (cs ++ [c])[cs.length]? = some c := by simp
    rcases List.eq_nil_or_concat' cs with rfl | ⟨before, p, rfl⟩
    · have hnone : run.result = none := h.unstarted.mpr rfl
      refine ⟨0, c, Condition.lastDecides_snoc ⟨c, rfl, .inl rfl⟩, rfl, ?_⟩
      rw [hnone]
      rfl
    · obtain ⟨b, hb⟩ : ∃ b, run.result = some b := Option.ne_none_iff_exists'.mp fun hnone => by
        simp [h.unstarted] at hnone
      obtain ⟨i, ci, hi, hci, hholds⟩ := h.result b hb
      have hjoin : run.join = if p.joinsAny then .any else .all := by
        rw [h.join, joinAfter, List.getLast?_concat]
        rfl
      rw [hb, hjoin]
      by_cases hd : c.holdsOn table data = p.joinsAny
      · -- the condition decides: "or true" is true, and "and false" is false
        refine ⟨_, c, Condition.lastDecides_snoc (Condition.decides_snoc_self.mpr hd), hself, ?_⟩
        cases hp : p.joinsAny <;> rw [hp] at hd <;> rw [hd] <;> simp [joinResult]
      · refine ⟨i, ci, hi.snoc fun hdec => hd (Condition.decides_snoc_self.mp hdec), ?_, ?_⟩
        · rw [List.getElem?_append_left hi.1.lt]
          exact hci
        · rw [hholds]
          have hd : c.holdsOn table data = !p.joinsAny := Bool.eq_not_of_ne hd
          cases hp : p.joinsAny <;> rw [hp] at hd <;> rw [hd] <;> simp [joinResult]
  · rw [joinAfter, List.getLast?_concat]
    rfl
  · rw [h.holding, List.filter_append, List.filter_singleton]
    cases c.holdsOn table data <;> simp

/-- Conditions about fields fold, and the running state at their end says of them what it should. -/
theorem exists_folded (table : FieldTable) (data : EvaluationData) (hj : ∀ c ∈ cs, c.Joins)
    (hf : ∀ c ∈ cs, ∃ name, c.field = .str name) :
    ∃ run, cs.foldlM (advance table data) .start = .ok run ∧ run.Folded table data cs := by
  induction cs using List.reverseRecOn with
  | nil => exact ⟨.start, rfl, folded_start⟩
  | append_singleton cs c ih =>
    obtain ⟨hj, hjc⟩ := List.forall_mem_append.mp hj
    obtain ⟨hf, hfc⟩ := List.forall_mem_append.mp hf
    obtain ⟨name, hname⟩ := hfc c (List.mem_singleton_self c)
    obtain ⟨run, hrun, hfolded⟩ := ih hj hf
    obtain ⟨run', hadvance, hfolded'⟩ := hfolded.advance (hjc c (List.mem_singleton_self c)) hname
    refine ⟨run', ?_, hfolded'⟩
    rw [List.foldlM_append, hrun]
    change [c].foldlM (ConditionOutcome.advance table data) run = .ok run'
    rw [List.foldlM_cons, hadvance]
    rfl

/-! ## Outcomes -/

/-- Conditions about fields have an outcome: what the running state at their end says. -/
theorem of_folded (table : FieldTable) (data : EvaluationData) (hj : ∀ c ∈ cs, c.Joins)
    (hf : ∀ c ∈ cs, ∃ name, c.field = .str name) :
    ∃ run : Running, run.Folded table data cs ∧
      ConditionOutcome.of table data cs = .ok ⟨run.result.getD false, run.holding, run.actualValues⟩ := by
  obtain ⟨run, hrun, hfolded⟩ := exists_folded table data hj hf
  exact ⟨run, hfolded, Reading.bind_eq_ok.mpr ⟨run, hrun, rfl⟩⟩

theorem exists_join (hj : ∀ c ∈ cs, c.Joins) : ∀ c ∈ cs, ∃ j, c.join = .ok j :=
  fun c hc => ⟨_, Condition.join_ok (hj c hc)⟩

theorem Running.Folded.triggered_iff (h : run.Folded table data cs) :
    run.result.getD false = true ↔ ∃ i c, LastDecides (·.holdsOn table data) cs i ∧ cs[i]? = some c ∧
      c.holdsOn table data = true := by
  cases hr : run.result with
  | none =>
    obtain rfl := h.unstarted.mp hr
    simp
  | some b =>
    obtain ⟨i, c, hi, hc, rfl⟩ := h.result b hr
    rw [Option.getD_some]
    constructor
    · exact fun hb => ⟨i, c, hi, hc, hb⟩
    · rintro ⟨j, c', hj, hc', hb⟩
      obtain rfl := hi.unique hj
      obtain rfl := Option.some.inj (hc.symm.trans hc')
      exact hb

/-- What the last condition says about a next one has no effect. -/
theorem of_snoc_joinNext {before : List Condition} {last : Condition} {joinNext : Value} {outcome : ConditionOutcome}
    (h : ConditionOutcome.of table data (before ++ [last]) = .ok outcome) (hl : last.Joins)
    (hn : { last with joinNext }.Joins) :
    ∃ outcome', ConditionOutcome.of table data (before ++ [{ last with joinNext }]) = .ok outcome' ∧
      outcome'.triggered = outcome.triggered ∧ outcome'.actualValues = outcome.actualValues := by
  unfold ConditionOutcome.of at h ⊢
  simp only [List.foldlM_append, List.foldlM_cons, List.foldlM_nil, bind_pure] at h ⊢
  obtain ⟨run', hfold, hout⟩ := Reading.bind_eq_ok.mp h
  obtain ⟨run, hrun, hadvance⟩ := Reading.bind_eq_ok.mp hfold
  obtain ⟨name, hname, -⟩ := Reading.bind_eq_ok.mp hadvance
  obtain ⟨name, hf⟩ := Field.nameOf_ok_iff.mp ⟨name, hname⟩
  rw [advance_eq hl hf] at hadvance
  obtain rfl := Except.ok.inj hadvance
  obtain rfl := Reading.pure_eq_ok.mp hout
  refine ⟨_, Reading.bind_eq_ok.mpr ⟨_, Reading.bind_eq_ok.mpr ⟨run, hrun, advance_eq hn hf run⟩, rfl⟩, ?_, ?_⟩
  · rfl
  · rfl

/-- The evidence of a condition names what its field stood for. -/
theorem Running.Folded.evidence (h : run.Folded table data cs) (hf : ∀ c ∈ cs, ∃ name, c.field = .str name)
    (now : Timestamp) (hc : c ∈ cs) :
    Finding.evidenceOf run.actualValues now c = {
      type := "CONFIGURATION"
      source := "policy-engine"
      content := [(.str "field", c.field), (.str "operator", c.operator), (.str "expected_value", c.value),
        (.str "actual_value", plain (c.actual table data))]
      timestamp := now } := by
  obtain ⟨name, hname⟩ := hf c hc
  unfold Finding.evidenceOf
  simp only [hname, h.actualValues c hc name hname, Option.getD_some]

/-- **Conditions fold to what the last deciding one says.** Of conditions that are joined by "and", "or" or
nothing, an outcome is read just when all of their fields are texts. Then the rule is triggered just when there
is a last condition that decides and it holds, so that what the last condition of all says about a next one has
no effect. Those that hold are kept in order, at least one if the rule is triggered, and whichever finding the
outcome gives has one piece of evidence for each of them: the condition and what its field stood for. -/
theorem conditions_fold (h : ∀ c ∈ cs, c.Joins) :
    ((∃ outcome, ConditionOutcome.of table data cs = .ok outcome) ↔ ∀ c ∈ cs, ∃ name, c.field = .str name) ∧
      ∀ outcome, ConditionOutcome.of table data cs = .ok outcome →
        (outcome.triggered = true ↔ ∃ i c, LastDecides (·.holdsOn table data) cs i ∧ cs[i]? = some c ∧
          c.holdsOn table data = true) ∧
        (∀ before last joinNext, cs = before ++ [last] → { last with joinNext }.Joins →
          ∃ outcome', ConditionOutcome.of table data (before ++ [{ last with joinNext }]) = .ok outcome' ∧
            outcome'.triggered = outcome.triggered ∧ outcome'.actualValues = outcome.actualValues) ∧
        outcome.holding = cs.filter (·.holdsOn table data) ∧
        (outcome.triggered = true → outcome.holding ≠ []) ∧
        ∀ p r d context now topic id metadata,
          (Finding.violationOf p r d outcome context now topic id metadata).details.evidence =
            (cs.filter (·.holdsOn table data)).map fun c => {
              type := "CONFIGURATION"
              source := "policy-engine"
              content := [(.str "field", c.field), (.str "operator", c.operator), (.str "expected_value", c.value),
                (.str "actual_value", plain (c.actual table data))]
              timestamp := now } := by
  refine ⟨of_ok_iff (exists_join h), fun outcome ho => ?_⟩
  have hf : ∀ c ∈ cs, ∃ name, c.field = .str name := (of_ok_iff (exists_join h)).mp ⟨outcome, ho⟩
  obtain ⟨run, hrun, heq⟩ := of_folded table data h hf
  obtain rfl : outcome = _ := Except.ok.inj (ho.symm.trans heq)
  refine ⟨hrun.triggered_iff, ?_, hrun.holding, fun ht => ?_, ?_⟩
  · rintro before last joinNext rfl hnext
    have hlast : last ∈ before ++ [last] := List.mem_append_right _ (List.mem_singleton_self last)
    exact of_snoc_joinNext ho (h last hlast) hnext
  · -- the last condition that decided holds, so it is among those that do
    obtain ⟨i, c, -, hc, hholds⟩ := hrun.triggered_iff.mp ht
    have hmem : c ∈ run.holding := by
      rw [hrun.holding]
      exact List.mem_filter.mpr ⟨List.mem_of_getElem? hc, hholds⟩
    exact List.ne_nil_of_mem hmem
  · intro p r d context now topic id metadata
    change run.holding.map (Finding.evidenceOf run.actualValues now) = _
    rw [hrun.holding]
    exact List.map_congr_left fun c hc => hrun.evidence hf now (List.mem_of_mem_filter hc)

section Sample

open Sample

/-- What is known of the dependency by itself. -/
def bare : EvaluationData := ⟨dependency "lib", .empty, [], none, none⟩

/-- One name or another, and something absent. -/
def mixed : List Condition := [
  ⟨"name", "equals", "lib", "or"⟩, ⟨"name", "equals", "other", "And"⟩, ⟨"x", "not_exists", .null, "OR"⟩]

/-- The first condition decides last: neither "or false" nor "and true" changes anything. Two conditions hold. -/
theorem conditions_fold_mixed :
    (∀ c ∈ mixed, c.Joins) ∧ LastDecides (·.holdsOn Field.standard bare) mixed 0 ∧
      ∃ outcome, ConditionOutcome.of Field.standard bare mixed = .ok outcome ∧ outcome.triggered = true ∧
        outcome.holding = [⟨"name", "equals", "lib", "or"⟩, ⟨"x", "not_exists", .null, "OR"⟩] := by
  have hjoins : ∀ c ∈ mixed, c.Joins := by
    simp only [mixed, List.forall_mem_cons, Condition.Joins]
    refine ⟨.inr (.inr (by rfl)), .inr (.inl (by rfl)), .inr (.inr (by rfl)), by simp⟩
  have hlast : LastDecides (·.holdsOn Field.standard bare) mixed 0 := by
    refine ⟨⟨_, rfl, .inl rfl⟩, fun j hj hd => ?_⟩
    obtain ⟨c, hc, hzero | ⟨p, hp, hor | hand⟩⟩ := hd
    · omega
    · match j, hj, hc, hp with
      | 1, _, hc, _ =>
        obtain rfl := Option.some.inj hc
        exact absurd hor.2 (by decide)
      | 2, _, _, hp =>
        obtain rfl := Option.some.inj hp
        exact absurd hor.1 (by decide)
    · match j, hj, hc, hp with
      | 1, _, _, hp =>
        obtain rfl := Option.some.inj hp
        exact absurd hand.1 (by decide)
      | 2, _, hc, _ =>
        obtain rfl := Option.some.inj hc
        exact absurd hand.2 (by decide)
  obtain ⟨hok, houtcome⟩ := @conditions_fold Field.standard bare _ hjoins
  obtain ⟨outcome, ho⟩ := hok.mpr (by simp [mixed])
  obtain ⟨htriggered, -, hholding, -⟩ := houtcome outcome ho
  exact ⟨hjoins, hlast, outcome, ho, htriggered.mpr ⟨0, _, hlast, rfl, rfl⟩, hholding⟩

end Sample

end ConditionOutcome
end SupplyGate
