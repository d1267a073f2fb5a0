import SupplyGate.Proofs.Gate.Numbering
import SupplyGate.Risk.Mitigation

/-!
# Which mitigations are suggested

Up to four mitigations are suggested, and each stands for one question about the vulnerabilities and the
level: whether some vulnerability has a fix, whether a critical risk has none, whether a change of
configuration would help. Monitoring is suggested whatever the answers are (`Suggested`).
-/

namespace SupplyGate

open SupplyGate.Numbering (Gives)

/-! ## Vulnerabilities of a configuration -/

/-- A value is found among texts just when it is one of them. -/
theorem Value.among_ok {texts : List String} {v : Value} {b : Bool} (h : v.among texts = .ok b) :
    b = true ↔ ∃ t ∈ texts, v = .str t := by
  obtain ⟨k, hk, hb⟩ := Reading.bind_eq_ok.mp h
  obtain rfl := Reading.pure_eq_ok.mp hb
  obtain ⟨k', rfl⟩ := Value.asScalar_ok_iff.mp ⟨k, hk⟩
  obtain rfl : k' = k := Except.ok.inj hk
  simp only [List.any_eq_true, Scalar.same_str_iff, Value.scalar.injEq]

theorem meetsTexts_ok {texts : List String} {vs : List Value} {b : Bool} (h : meetsTexts texts vs = .ok b) :
    b = true ↔ ∃ t ∈ texts, Value.str t ∈ vs := by
  obtain ⟨bs, hbs, hb⟩ := Reading.bind_eq_ok.mp h
  obtain rfl := Reading.pure_eq_ok.mp hb
  have hfound := mapM_ok hbs
  rw [List.any_eq_true]
  constructor
  · rintro ⟨b, hb, htrue⟩
    obtain ⟨v, hv, hamong⟩ := exists_of_forall₂ hfound b hb
    obtain ⟨t, ht, rfl⟩ := (Value.among_ok hamong).mp htrue
    exact ⟨t, ht, hv⟩
  · rintro ⟨t, ht, hv⟩
    obtain ⟨b, hb, hamong⟩ := exists_of_forall₂ hfound.flip _ hv
    exact ⟨b, hb, (Value.among_ok hamong).mpr ⟨t, ht, rfl⟩⟩

/-- The description of a vulnerability, in lower case, has a word for a configuration fault, or one of its
weaknesses is such a fault. -/
def Vulnerability.Misconfigured (v : Vulnerability) : Prop :=
  (∃ s, v.description.orElse "" = .str s ∧ ∃ w ∈ configurationWords, Text.contains (Text.lower s) w = true) ∨
    ∃ c ∈ configurationWeaknesses, Value.str c ∈ v.cwe

theorem Vulnerability.isConfigurable_ok {v : Vulnerability} {b : Bool} (h : v.isConfigurable = .ok b) :
    b = true ↔ v.Misconfigured := by
  unfold isConfigurable at h
  unfold Misconfigured
  split at h
  · next s hs =>
    rw [pure_bind] at h
    dsimp only at h
    split at h
    · next hword =>
      obtain rfl := Reading.pure_eq_ok.mp h
      exact iff_of_true rfl (.inl ⟨s, hs, List.any_eq_true.mp hword⟩)
    · next hword =>
      rw [meetsTexts_ok h]
      constructor
      · exact .inr
      · rintro (⟨s', hs', hfound⟩ | hmeets)
        · obtain rfl : s' = s := Scalar.str.inj (Value.scalar.inj (hs'.symm.trans hs))
          exact absurd (List.any_eq_true.mpr hfound) hword
        · exact hmeets
  · next w _ =>
    obtain ⟨_, hthrow, -⟩ := Reading.bind_eq_ok.mp h
    cases hthrow

theorem anyConfigurable_ok : ∀ {vs : List Vulnerability} {b : Bool}, anyConfigurable vs = .ok b →
    (b = true ↔ ∃ v ∈ vs, v.Misconfigured)
  | [], b, h => by
    cases h
    simp
  | v :: vs, b, h => by
    obtain ⟨c, hc, hb⟩ := Reading.bind_eq_ok.mp h
    have hv := Vulnerability.isConfigurable_ok hc
    rw [List.exists_mem_cons_iff, ← hv]
    cases c with
    | true =>
      obtain rfl := Reading.pure_eq_ok.mp hb
      simp
    | false =>
      rw [anyConfigurable_ok hb]
      simp

/-! ## What is suggested -/

/-- Mitigations for vulnerabilities and a level: one for each reason there is, by ascending priority numbers,
and monitoring once, at the end. -/
structure Suggested (vs : List Vulnerability) (level : RiskLevel) (ms : List Mitigation) : Prop where
  ascending : ∃ ps : List Int, ms.map (·.priority) = ps.map .int ∧ ps.Pairwise (· < ·)
  monitored : ∃ before last, ms = before ++ [last] ∧ last.type = .monitor ∧ ∀ m ∈ before, m.type ≠ .monitor
  updates : (∃ m ∈ ms, m.type = .update) ↔ ∃ v ∈ vs, v.fixAvailable = true
  replaces : (∃ m ∈ ms, m.type = .replace) ↔ level = .critical ∧ ∀ v ∈ vs, v.fixAvailable = false
  configures : (∃ m ∈ ms, m.type = .configure) ↔ ∃ v ∈ vs, v.Misconfigured

theorem gives_strategyWhen (applies : Bool) (names : List Value) (build : Value → Mitigation) :
    Gives (strategyWhen applies names build) fun ms => ∃ id, ms = if applies then [build id] else [] := by
  cases applies with
  | false => exact .pure ⟨.null, rfl⟩
  | true => exact (Gives.fresh .strategy).bind fun id _ => Gives.reading.bind fun _ _ => .pure ⟨id, rfl⟩

/-- The mitigations for the answers to three questions. -/
theorem suggested_of {vs : List Vulnerability} {level : RiskLevel} {d : Dependency} {c : BusinessContext}
    {fixable critical configurable : Bool} (hfix : fixable = true ↔ ∃ v ∈ vs, v.fixAvailable = true)
    (hcritical : critical = true ↔ level = .critical) (hconf : configurable = true ↔ ∃ v ∈ vs, v.Misconfigured)
    (i j k l : Value) :
    Suggested vs level ((if fixable then [updateStrategy d c level i] else []) ++
      (if critical && !fixable then [replaceStrategy d c j] else []) ++
      (if configurable then [configureStrategy k] else []) ++ [monitorStrategy d l]) := by
  have hnofix : (∀ v ∈ vs, v.fixAvailable = false) ↔ fixable = false := by
    rw [← Bool.not_eq_true, hfix]
    simp
  constructor
  · cases fixable <;> cases critical <;> cases configurable
    · exact ⟨[4], rfl, by decide⟩
    · exact ⟨[3, 4], rfl, by decide⟩
    · exact ⟨[2, 4], rfl, by decide⟩
    · exact ⟨[2, 3, 4], rfl, by decide⟩
    · exact ⟨[1, 4], rfl, by decide⟩
    · exact ⟨[1, 3, 4], rfl, by decide⟩
    · exact ⟨[1, 4], rfl, by decide⟩
    · exact ⟨[1, 3, 4], rfl, by decide⟩
  · refine ⟨_, _, rfl, rfl, ?_⟩
    cases fixable <;> cases critical <;> cases configurable <;>
      simp [updateStrategy, replaceStrategy, configureStrategy]
  · rw [← hfix]
    cases fixable <;> cases critical <;> cases configurable <;>
      simp [updateStrategy, replaceStrategy, configureStrategy, monitorStrategy]
  · rw [hnofix, ← hcritical]
    cases fixable <;> cases critical <;> cases configurable <;>
      simp [updateStrategy, replaceStrategy, configureStrategy, monitorStrategy]
  · rw [← hconf]
    cases fixable <;> cases critical <;> cases configurable <;>
      simp [updateStrategy, replaceStrategy, configureStrategy, monitorStrategy]

/-- Whatever mitigations are suggested, they are those that the vulnerabilities and the level ask for. -/
theorem gives_mitigations (d : Dependency) (vs : List Vulnerability) (c : BusinessContext) (level : RiskLevel) :
    Gives (mitigations d vs c level) (Suggested vs level) := by
  refine (gives_strategyWhen _ _ _).bind fun update hupdate => ?_
  refine (gives_strategyWhen _ _ _).bind fun replace hreplace => ?_
  refine (Gives.ofReading fun _ h => h).bind fun configurable hconfigurable => ?_
  refine (gives_strategyWhen _ _ _).bind fun configure hconfigure => ?_
  refine (gives_strategyWhen true _ _).bind fun monitor hmonitor => .pure ?_
  obtain ⟨i, rfl⟩ := hupdate
  obtain ⟨j, rfl⟩ := hreplace
  obtain ⟨k, rfl⟩ := hconfigure
  obtain ⟨l, rfl⟩ := hmonitor
  exact suggested_of List.any_eq_true decide_eq_true_iff (anyConfigurable_ok hconfigurable) i j k l

end SupplyGate
