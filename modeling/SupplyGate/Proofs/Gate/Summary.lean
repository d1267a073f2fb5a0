import SupplyGate.Gate.Evaluator
import SupplyGate.Proofs.Value.Overlay

/-!
# Summaries

A summary counts the findings of a run by severity and by policy. It is made where each of them has a
severity on the scale and the id of its policy is a key, since all that is counted up are integers
(`summarize_ok`). A summary that was made says of each severity how often the findings have it
(`tabulates_summarize`).
-/

namespace SupplyGate

/-- A summary can count the violation: its severity is on the scale, and the id of its policy a key. -/
structure Violation.Countable (v : Violation) : Prop where
  severity : ∃ severity, v.severity = .held severity
  policyId : ∃ k, v.policyId = .scalar k

theorem Violation.Countable.seenAgain {v : Violation} (h : v.Countable) (now : Timestamp) (found : Violation) :
    (Finding.seenAgain now found v).Countable := by
  unfold Finding.seenAgain
  split
  · exact ⟨h.severity, h.policyId⟩
  · exact ⟨h.severity, h.policyId⟩

/-- A table of integers. -/
def Counting (counts : List (Scalar × Value)) : Prop := ∀ e ∈ counts, ∃ n, e.2 = .int n

namespace Gate

/-- What a table of integers has under a key, zero if it has nothing there, is an integer. -/
theorem getD_findEntry (key : Scalar) {counts : List (Scalar × Value)} (h : Counting counts) :
    ∃ n, (findEntry key counts).getD (.int 0) = .int n := by
  cases hf : findEntry key counts with
  | none => exact ⟨0, rfl⟩
  | some v =>
    obtain ⟨k, hk⟩ := Value.exists_mem_of_findEntry hf
    exact h _ hk

theorem countUnder_eq (key : Scalar) {counts : List (Scalar × Value)} (h : Counting counts) :
    ∃ n, countUnder key counts = .ok (Value.insert key (.int n) counts) := by
  obtain ⟨n, hn⟩ := getD_findEntry key h
  refine ⟨n + 1, ?_⟩
  rw [countUnder, hn]
  rfl

theorem counting_insert {counts : List (Scalar × Value)} (h : Counting counts) (key : Scalar) (n : Int) :
    Counting (Value.insert key (.int n) counts) := fun e he => by
  rcases Value.mem_insert he with he | he
  · exact ⟨n, he⟩
  · exact h e he

theorem counting_noSeverities : Counting EnforcementSummary.noSeverities := by
  intro e he
  obtain ⟨severity, -, rfl⟩ := List.mem_map.mp he
  exact ⟨0, rfl⟩

/-- The two tables of a summary count. -/
structure SummaryCounting (s : EnforcementSummary) : Prop where
  severities : Counting s.severityBreakdown
  policies : Counting s.policyBreakdown

/-- A finding is counted under its severity and under its policy. -/
theorem addToSummary_eq {s : EnforcementSummary} {v : Violation} {severity : Severity} {k : Scalar} (hs : SummaryCounting s)
    (hseverity : v.severity = .held severity) (hk : v.policyId = .scalar k) :
    ∃ m n, addToSummary s v = .ok { s with
      severityBreakdown := Value.insert (.str severity.toText) (.int m) s.severityBreakdown
      policyBreakdown := Value.insert k (.int n) s.policyBreakdown } := by
  obtain ⟨m, hm⟩ := countUnder_eq (.str severity.toText) hs.severities
  obtain ⟨n, hn⟩ := countUnder_eq k hs.policies
  refine ⟨m, n, Reading.bind_eq_ok.mpr ⟨severity, by rw [hseverity, Loose.part_held], ?_⟩⟩
  refine Reading.bind_eq_ok.mpr ⟨_, hm, Reading.bind_eq_ok.mpr ⟨k, by rw [hk]; rfl, ?_⟩⟩
  exact Reading.bind_eq_ok.mpr ⟨_, hn, rfl⟩

theorem addToSummary_ok {s : EnforcementSummary} {v : Violation} (hs : SummaryCounting s) (hv : v.Countable) :
    ∃ s', addToSummary s v = .ok s' ∧ SummaryCounting s' := by
  obtain ⟨⟨severity, hseverity⟩, k, hk⟩ := hv
  obtain ⟨m, n, hadd⟩ := addToSummary_eq hs hseverity hk
  exact ⟨_, hadd, counting_insert hs.severities _ m, counting_insert hs.policies k n⟩

theorem sum_ok {values : List Value} (h : ∀ v ∈ values, ∃ n, v = .int n) : ∃ n, Value.sum values = .ok (.int n) := by
  obtain ⟨_, htotal, n, rfl⟩ : ∃ total, values.foldlM Value.add (.int 0) = .ok total ∧ ∃ n, total = .int n := by
    refine exists_foldlM_ok (fun v hv b hb => ?_) ⟨0, rfl⟩
    obtain ⟨m, rfl⟩ := hb
    obtain ⟨n, rfl⟩ := h v hv
    exact ⟨.int (m + n), rfl, m + n, rfl⟩
  exact ⟨n, htotal⟩

/-- A summary before the first finding is counted. -/
structure Uncounted (s : EnforcementSummary) : Prop where
  totals : ∀ v ∈ [s.policiesEvaluated, s.rulesEvaluated, s.violationsDetected, s.actionsExecuted, s.blockedDependencies],
    ∃ n, v = .int n
  severities : s.severityBreakdown = EnforcementSummary.noSeverities
  policies : s.policyBreakdown = []

theorem Uncounted.counting {s : EnforcementSummary} (h : Uncounted s) : SummaryCounting s where
  severities := h.severities ▸ counting_noSeverities
  policies := h.policies ▸ fun _ he => nomatch he

/-- Of evaluations with integer counts, the findings are counted one after the other. -/
theorem summarize_eq (policies : List Policy) {evaluations : List Evaluation} (executed : List ExecutedAction)
    (hrules : ∀ e ∈ evaluations, ∃ n, e.rulesEvaluated = .int n) :
    ∃ start, Uncounted start ∧
      summarize policies evaluations executed = (evaluations.flatMap Evaluation.findings).foldlM addToSummary start := by
  obtain ⟨total, htotal⟩ : ∃ total, Value.sum (evaluations.map (·.rulesEvaluated)) = .ok (.int total) := by
    refine sum_ok fun v hv => ?_
    obtain ⟨e, he, rfl⟩ := List.mem_map.mp hv
    exact hrules e he
  refine ⟨_, ⟨?_, rfl, rfl⟩, by rw [summarize, htotal]; rfl⟩
  simp

/-- A summary is made of evaluations with integer counts and countable findings. -/
theorem summarize_ok {policies : List Policy} {evaluations : List Evaluation} {executed : List ExecutedAction}
    (hrules : ∀ e ∈ evaluations, ∃ n, e.rulesEvaluated = .int n)
    (hfindings : ∀ e ∈ evaluations, ∀ v ∈ e.findings, v.Countable) :
    ∃ summary, summarize policies evaluations executed = .ok summary := by
  obtain ⟨start, hstart, heq⟩ := summarize_eq policies executed hrules
  have hstep : ∀ v ∈ evaluations.flatMap Evaluation.findings, ∀ s, SummaryCounting s →
      ∃ s', addToSummary s v = .ok s' ∧ SummaryCounting s' := by
    intro v hv s hs
    obtain ⟨e, he, hve⟩ := List.mem_flatMap.mp hv
    exact addToSummary_ok hs (hfindings e he v hve)
  obtain ⟨summary, hsummary, -⟩ := exists_foldlM_ok hstep hstart.counting
  exact ⟨summary, heq.trans hsummary⟩

end Gate

/-! ## What a breakdown counts -/

theorem Severity.toText_injective : Function.Injective toText := by
  intro a b
  cases a <;> cases b <;> decide

/-- A table says, for each severity of the scale, how often it is among some severities. -/
def Tabulates (counts : List (Scalar × Value)) (severities : List (Loose Severity)) : Prop :=
  ∀ level : Severity,
    findEntry (.str level.toText) counts = some (.int (severities.countP (·.get? == some level)))

namespace Gate

theorem tabulates_start : Tabulates EnforcementSummary.noSeverities [] := by
  intro level
  cases level <;> rfl

theorem tabulates_countUnder {counts counts' : List (Scalar × Value)} {severities : List (Loose Severity)}
    (h : Tabulates counts severities) {severity : Severity}
    (hc : countUnder (.str severity.toText) counts = .ok counts') :
    Tabulates counts' (severities ++ [.held severity]) := by
  have hself : (Scalar.str severity.toText).same (.str severity.toText) = true := by
    simp [Scalar.same, Scalar.key]
  obtain ⟨n, hn, hc⟩ := Reading.bind_eq_ok.mp hc
  rw [h severity, Option.getD_some] at hn
  obtain rfl := Except.ok.inj hn
  obtain rfl := Reading.pure_eq_ok.mp hc
  intro level
  rw [List.countP_append, List.countP_singleton]
  by_cases hl : level = severity
  · subst hl
    simp [findEntry_insert_self hself, Loose.get?]
  · have htext : severity.toText ≠ level.toText := fun he => hl (Severity.toText_injective he.symm)
    have hne := fun k => Scalar.same_str_ne (k := k) htext
    simp [findEntry_insert_ne (hne _ hself) hne, h level, Loose.get?, Ne.symm hl]

/-- One more finding is counted by its severity. -/
theorem tabulates_addToSummary {s s' : EnforcementSummary} {v : Violation} {severities : List (Loose Severity)}
    (h : Tabulates s.severityBreakdown severities) (hadd : addToSummary s v = .ok s') :
    Tabulates s'.severityBreakdown (severities ++ [v.severity]) := by
  obtain ⟨severity, hseverity, hadd⟩ := Reading.bind_eq_ok.mp hadd
  obtain ⟨counts, hcount, hadd⟩ := Reading.bind_eq_ok.mp hadd
  obtain ⟨policyId, -, hadd⟩ := Reading.bind_eq_ok.mp hadd
  obtain ⟨policies, -, hadd⟩ := Reading.bind_eq_ok.mp hadd
  obtain rfl := Reading.pure_eq_ok.mp hadd
  have hheld : v.severity = .held severity := by
    cases hv : v.severity with
    | held a => simpa [hv, Loose.part] using hseverity
    | raw w => simp [hv, Loose.part] at hseverity
  rw [hheld]
  exact tabulates_countUnder h hcount

theorem tabulates_foldlM : ∀ {vs : List Violation} {s s' : EnforcementSummary} {severities : List (Loose Severity)},
    Tabulates s.severityBreakdown severities → vs.foldlM addToSummary s = .ok s' →
    Tabulates s'.severityBreakdown (severities ++ vs.map (·.severity))
  | [], s, s', severities, h, hfold => by
    obtain rfl := Reading.pure_eq_ok.mp hfold
    rwa [List.map_nil, List.append_nil]
  | v :: vs, s, s', severities, h, hfold => by
    rw [List.foldlM_cons] at hfold
    obtain ⟨t, hadd, hfold⟩ := Reading.bind_eq_ok.mp hfold
    have hrest := tabulates_foldlM (tabulates_addToSummary h hadd) hfold
    rwa [List.append_assoc] at hrest

/-- The breakdown by severity counts the findings by the severities that they have themselves. -/
theorem tabulates_summarize {policies : List Policy} {evaluations : List Evaluation}
    {executed : List ExecutedAction} {summary : EnforcementSummary}
    (h : summarize policies evaluations executed = .ok summary) :
    Tabulates summary.severityBreakdown ((evaluations.flatMap Evaluation.findings).map (·.severity)) := by
  obtain ⟨total, -, h⟩ := Reading.bind_eq_ok.mp h
  exact tabulates_foldlM tabulates_start h

end Gate
end SupplyGate
