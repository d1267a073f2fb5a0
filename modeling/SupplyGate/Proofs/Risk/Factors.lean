import SupplyGate.Gate.Risk
import SupplyGate.Proofs.Gate.Numbering

/-!
# Which factors a dependency has

Every factor is built by `RiskFactor.build`, so its weighted score is its score times its weight, and its
category is that of the generator which builds it. There is one factor of a vulnerability for each
vulnerability, in their order (`FactorsOf`).
-/

namespace SupplyGate

open SupplyGate.Numbering (Gives)

/-- The weighted score of a factor is its score times its weight. -/
def RiskFactor.Weighted (f : RiskFactor) : Prop := f.score.mul f.weight = .ok f.weightedScore

/-- What the factor of a vulnerability says of it. -/
structure RiskFactor.Rates (v : Vulnerability) (f : RiskFactor) : Prop where
  severity : f.severity = v.severity
  score : f.score = .int v.severity.score
  description : f.description = .str (v.severity.toText ++ " vulnerability: " ++ (v.title.orElse (v.cve.orElse (.str v.id))).rendered)

/-- Factors of a dependency with some vulnerabilities: weighted, and one of a vulnerability for each of these. -/
structure FactorsOf (vs : List Vulnerability) (fs : List RiskFactor) : Prop where
  weighted : ∀ f ∈ fs, f.Weighted
  vulnerabilities : List.Forall₂ RiskFactor.Rates vs (fs.filter (·.category = .vulnerability))

/-- A weighted factor of a category. -/
structure RiskFactor.Of (category : FactorCategory) (f : RiskFactor) : Prop where
  category : f.category = category
  weighted : f.Weighted

/-- A factor as it is built. -/
structure RiskFactor.Built (category : FactorCategory) (severity : Severity) (score : Value) (description : String)
    (f : RiskFactor) : Prop extends f.Of category where
  severity : f.severity = severity
  score : f.score = score
  description : f.description = .str description

theorem gives_build (now : Timestamp) (category : FactorCategory) (type description : String) (severity : Severity)
    (weight score : Value) (evidence : List String) (source : Value) :
    Gives (RiskFactor.build now category type description severity weight score evidence source)
      (RiskFactor.Built category severity score description) := by
  refine (Gives.fresh .factor).bind fun id _ => ?_
  refine (Gives.ofReading fun _ h => h).bind fun product hproduct => .pure ?_
  exact ⟨⟨rfl, hproduct⟩, rfl, rfl, rfl⟩

/-! ## Vulnerabilities -/

theorem gives_vulnerabilityFactors (vs : List Vulnerability) (criteria : Criteria) (now : Timestamp) :
    Gives (vulnerabilityFactors vs criteria now) fun fs =>
      (∀ f ∈ fs, f.Of .vulnerability) ∧ List.Forall₂ RiskFactor.Rates vs fs := by
  have hone : ∀ v, Gives (vulnerabilityFactor criteria now v) fun f => f.Of .vulnerability ∧ f.Rates v := fun v => by
    refine Gives.reading.bind fun cve _ => (Gives.ofReading fun _ h => h).bind fun title htitle => ?_
    obtain ⟨-, rfl⟩ := Value.text_eq_ok.mp htitle
    refine (gives_build now _ _ _ _ _ _ _ _).mono fun f hf => ⟨hf.toOf, hf.severity, hf.score, ?_⟩
    rw [hf.description]
    simp [toString]
  refine (Gives.mapM hone vs).mono fun fs hfs => ⟨fun f hf => ?_, hfs.imp fun _ _ h => h.2⟩
  obtain ⟨v, -, h, -⟩ := exists_of_forall₂ hfs f hf
  exact h

/-! ## Dependency, environment and business -/

theorem gives_typeFactor (d : Dependency) (criteria : Criteria) (now : Timestamp) :
    Gives (typeFactor d criteria now) (RiskFactor.Of .dependency) := by
  unfold typeFactor
  dsimp only
  split <;> exact (gives_build _ _ _ _ _ _ _ _ _).mono fun _ hf => hf.toOf

theorem gives_maintenanceFactor (d : Dependency) (criteria : Criteria) (base : Value) (now : Timestamp) :
    Gives (maintenanceFactor d criteria base now) (RiskFactor.Of .dependency) := by
  refine Gives.reading.bind fun updatedAt _ => Gives.reading.bind fun estimate _ => ?_
  refine Gives.reading.bind fun good _ => Gives.reading.bind fun fair _ => Gives.reading.bind fun score _ => ?_
  refine Gives.reading.bind fun rest _ => ?_
  exact (gives_build _ _ _ _ _ _ _ _ _).mono fun _ hf => hf.toOf

theorem gives_licenseFactors (d : Dependency) (criteria : Criteria) (now : Timestamp) :
    Gives (licenseFactors d criteria now) fun fs => ∀ f ∈ fs, f.Of .dependency := by
  refine Gives.reading.bind fun risk _ => ?_
  obtain ⟨score, severity⟩ := risk
  dsimp only
  split
  · exact .pure fun f hf => nomatch hf
  · refine Gives.reading.bind fun names _ => (gives_build _ _ _ _ _ _ _ _ _).bind fun f hf => .pure ?_
    simpa using hf.toOf

theorem gives_dependencyFactors (d : Dependency) (criteria : Criteria) (base : Value) (now : Timestamp) :
    Gives (dependencyFactors d criteria base now) fun fs => ∀ f ∈ fs, f.Of .dependency := by
  refine (gives_typeFactor d criteria now).bind fun type htype => ?_
  refine (gives_maintenanceFactor d criteria base now).bind fun maintenance hmaintenance => ?_
  refine (gives_build _ _ _ _ _ _ _ _ _).bind fun age hage => ?_
  refine (gives_licenseFactors d criteria now).bind fun licenses hlicenses => .pure ?_
  simpa using ⟨htype, hmaintenance, hage.toOf, hlicenses⟩

theorem gives_environmentFactors (c : BusinessContext) (criteria : Criteria) (now : Timestamp) :
    Gives (environmentFactors c criteria now) fun fs => ∀ f ∈ fs, f.Of .environment := by
  refine (gives_build _ _ _ _ _ _ _ _ _).bind fun place hplace => ?_
  refine (gives_build _ _ _ _ _ _ _ _ _).bind fun data hdata => .pure ?_
  simpa using ⟨hplace.toOf, hdata.toOf⟩

theorem gives_businessFactors (c : BusinessContext) (criteria : Criteria) (now : Timestamp) :
    Gives (businessFactors c criteria now) fun fs => ∀ f ∈ fs, f.Of .business := by
  refine (gives_build _ _ _ _ _ _ _ _ _).bind fun first hfirst => ?_
  split
  · refine .pure ?_
    simpa using hfirst.toOf
  · refine Gives.reading.bind fun critical _ => Gives.reading.bind fun names _ => ?_
    refine (gives_build _ _ _ _ _ _ _ _ _).bind fun second hsecond => .pure ?_
    simpa using ⟨hfirst.toOf, hsecond.toOf⟩

/-! ## All factors -/

theorem FactorsOf.append {vs : List Vulnerability} {fs gs : List RiskFactor} {category : FactorCategory}
    (h : FactorsOf vs fs) (hg : ∀ f ∈ gs, f.Of category) (hne : category ≠ .vulnerability) : FactorsOf vs (fs ++ gs) where
  weighted f hf := by
    rcases List.mem_append.mp hf with hf | hf
    · exact h.weighted f hf
    · exact (hg f hf).weighted
  vulnerabilities := by
    have hnone : gs.filter (·.category = .vulnerability) = [] := by
      refine List.filter_eq_nil_iff.mpr fun f hf => ?_
      rw [(hg f hf).category]
      simpa using hne
    rw [List.filter_append, hnone, List.append_nil]
    exact h.vulnerabilities

theorem gives_allFactors (criteria : Criteria) (now : Timestamp) (d : Dependency) (vs : List Vulnerability)
    (c : BusinessContext) (estimate : Reading Value) :
    Gives (Gate.allFactors criteria now d vs c estimate) (FactorsOf vs) := by
  refine (gives_vulnerabilityFactors vs criteria now).bind fun fs ⟨hfs, hrates⟩ => ?_
  refine Gives.reading.bind fun base _ => ?_
  refine (gives_dependencyFactors d criteria base now).bind fun dependency hdependency => ?_
  refine (gives_environmentFactors c criteria now).bind fun environment henvironment => ?_
  refine (gives_businessFactors c criteria now).bind fun business hbusiness => .pure ?_
  have hvulnerabilities : FactorsOf vs fs := by
    refine ⟨fun f hf => (hfs f hf).weighted, ?_⟩
    rwa [List.filter_eq_self.mpr fun f hf => by simpa using (hfs f hf).category]
  exact ((hvulnerabilities.append hdependency nofun).append henvironment nofun).append hbusiness nofun

end SupplyGate
