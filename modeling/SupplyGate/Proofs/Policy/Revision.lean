import SupplyGate.Gate.Policies
import SupplyGate.Proofs.Policy.Validation

/-!
# Valid policies and their revisions

A policy is valid when validation finds no problem with it, and when it and its rules have ids. Validation
looks at the name and at the rules without their ids, so whatever else an operation sets, a valid
policy stays valid. An update, whichever fields it names, leaves alone what identifies the policy and
what its change log says so far (`assembled_ok`).
-/

namespace SupplyGate

/-! ## Validity -/

/-- The same rules, each under some id of which something is known. -/
def RulesUnder (known : Rule → Value → Prop) (before after : List Rule) : Prop :=
  List.Forall₂ (fun r r' => ∃ id, known r id ∧ r' = { r with id := id }) before after

theorem RulesUnder.truthy {known : Rule → Value → Prop} {before after : List Rule}
    (h : RulesUnder known before after) (hknown : ∀ r id, known r id → id.truthy = true) :
    ∀ r ∈ after, r.id.truthy = true := by
  intro r hr
  obtain ⟨q, -, id, hid, rfl⟩ := exists_of_forall₂ h r hr
  exact hknown q id hid

theorem RulesUnder.names {known : Rule → Value → Prop} {before after : List Rule}
    (h : RulesUnder known before after) : after.map (·.name) = before.map (·.name) := by
  induction h with
  | nil => rfl
  | cons hr _ ih =>
    obtain ⟨id, -, rfl⟩ := hr
    rw [List.map_cons, List.map_cons, ih]

/-- Validation finds no problem with the policy, and it and its rules have ids. -/
structure Policy.Valid (p : Policy) : Prop where
  problems : Validation.problems p = .ok []
  id : p.id.truthy = true
  rules : ∀ r ∈ p.rules, r.id.truthy = true

namespace Validation

/-- Problems of rules are seen without their ids. -/
theorem ruleProblems_mapM_congr {known : Rule → Value → Prop} {before after : List Rule}
    (h : RulesUnder known before after) : ∀ n,
    (after.zipIdx n).mapM (fun (r, i) => ruleProblems r i) =
      (before.zipIdx n).mapM fun (r, i) => ruleProblems r i := by
  induction h with
  | nil => exact fun _ => rfl
  | cons hr _ ih =>
    obtain ⟨id, -, rfl⟩ := hr
    intro n
    simp only [List.zipIdx_cons, List.mapM_cons, ih (n + 1)]
    rfl

/-- Which problems a policy has is seen from its name and from its rules without their ids. -/
theorem problems_congr {known : Rule → Value → Prop} {p q : Policy} (hname : q.name = p.name)
    (hrules : RulesUnder known p.rules q.rules) : problems q = problems p := by
  have hempty : q.rules.isEmpty = p.rules.isEmpty := by
    have hlength := hrules.length_eq
    cases hp : p.rules <;> cases hq : q.rules <;> simp_all
  unfold problems
  rw [hname, hempty, ruleProblems_mapM_congr hrules 0]

end Validation

/-- A valid policy stays valid under the same name, with the same rules. -/
theorem Policy.Valid.congr {p q : Policy} (h : p.Valid) (hid : q.id = p.id) (hname : q.name = p.name)
    (hrules : q.rules = p.rules) : q.Valid where
  problems := by
    have hunder : RulesUnder (fun _ _ => True) p.rules q.rules := by
      rw [hrules]
      exact List.forall₂_same.mpr fun r _ => ⟨r.id, trivial, rfl⟩
    rw [Validation.problems_congr hname hunder, h.problems]
  id := hid ▸ h.id
  rules := hrules ▸ h.rules

/-! ## Revisions -/

/-- What every revision of a policy leaves alone, and how its change log may go on. -/
structure Policy.Revised (p q : Policy) : Prop where
  id : q.id = p.id
  tenantId : q.tenantId = p.tenantId
  createdAt : q.createdAt = p.createdAt
  createdBy : q.createdBy = p.createdBy
  changeLog : p.metadata.changeLog <+: q.metadata.changeLog

theorem Policy.Revised.refl (p : Policy) : p.Revised p := ⟨rfl, rfl, rfl, rfl, List.prefix_refl _⟩

theorem Policy.Revised.trans {p q r : Policy} (h : p.Revised q) (h' : q.Revised r) : p.Revised r where
  id := h'.id.trans h.id
  tenantId := h'.tenantId.trans h.tenantId
  createdAt := h'.createdAt.trans h.createdAt
  createdBy := h'.createdBy.trans h.createdBy
  changeLog := h.changeLog.trans h'.changeLog

/-- A policy with the same header, rules and metadata. -/
structure Policy.SameCore (p q : Policy) : Prop where
  id : q.id = p.id
  tenantId : q.tenantId = p.tenantId
  createdAt : q.createdAt = p.createdAt
  createdBy : q.createdBy = p.createdBy
  rules : q.rules = p.rules
  metadata : q.metadata = p.metadata

theorem Policy.SameCore.trans {p q r : Policy} (h : p.SameCore q) (h' : q.SameCore r) : p.SameCore r where
  id := h'.id.trans h.id
  tenantId := h'.tenantId.trans h.tenantId
  createdAt := h'.createdAt.trans h.createdAt
  createdBy := h'.createdBy.trans h.createdBy
  rules := h'.rules.trans h.rules
  metadata := h'.metadata.trans h.metadata

/-- No edit changes who a policy belongs to, its rules or its metadata. -/
theorem PolicyEdit.apply_ok {p q : Policy} {e : PolicyEdit} (h : PolicyEdit.apply p e = .ok q) : p.SameCore q := by
  cases e with
  | unknown field => cases h
  | _ =>
    cases h
    exact ⟨rfl, rfl, rfl, rfl, rfl, rfl⟩

theorem PolicyEdit.foldlM_apply_ok : ∀ {edits : List PolicyEdit} {p q : Policy},
    edits.foldlM PolicyEdit.apply p = .ok q → p.SameCore q
  | [], p, q, h => by
    obtain rfl := Reading.pure_eq_ok.mp h
    exact ⟨rfl, rfl, rfl, rfl, rfl, rfl⟩
  | e :: edits, p, q, h => by
    obtain ⟨p', hp', h⟩ := Reading.bind_eq_ok.mp h
    exact (apply_ok hp').trans (foldlM_apply_ok h)

namespace Gate

variable {p q : Policy} {now : Timestamp} {updatedBy : Value}

/-- Changed rules raise the version, and the change log tells of them at its end. -/
theorem withRules_ok {rules : List Rule} (h : withRules p rules now updatedBy = .ok q) :
    p.Revised q ∧ q.rules = rules := by
  obtain ⟨version, -, h⟩ := Reading.bind_eq_ok.mp h
  obtain rfl := Reading.pure_eq_ok.mp h
  exact ⟨⟨rfl, rfl, rfl, rfl, List.prefix_append _ _⟩, rfl⟩

/-- Metadata of an update do not touch the change log. -/
theorem withMetadata_ok {metadata : Option (Loose PolicyMetadata)} (h : withMetadata p metadata = .ok q) :
    p.Revised q ∧ q.rules = p.rules := by
  cases metadata with
  | none =>
    cases h
    exact ⟨.refl p, rfl⟩
  | some metadata =>
    cases metadata with
    | raw v => cases h
    | held m =>
      cases h
      exact ⟨⟨rfl, rfl, rfl, rfl, List.prefix_refl _⟩, rfl⟩

/-- The policy with the rules of an update, if they differ from its own. -/
def withChanged (p : Policy) (now : Timestamp) (updatedBy : Value) : Option (List Rule) → Reading Policy
  | none => .ok p
  | some rules => withRules p rules now updatedBy

theorem withChanged_ok {rules : Option (List Rule)} (h : withChanged p now updatedBy rules = .ok q) :
    p.Revised q ∧ q.rules = rules.getD p.rules := by
  cases rules with
  | none =>
    cases h
    exact ⟨.refl p, rfl⟩
  | some rules => exact withRules_ok h

/-- A policy after an update, once it is known which rules it has from then on if they change. -/
def assembled (p : Policy) (u : PolicyUpdate) (rules : Option (List Rule)) (now : Timestamp) (updatedBy : Value) :
    Reading Policy := do
  let raised ← withChanged p now updatedBy rules
  let described ← withMetadata raised u.metadata
  let edited ← u.edits.foldlM PolicyEdit.apply described
  return { edited with version := if rules.isSome then raised.version else edited.version, updatedAt := now }

/-- **An update gives a revision**, with the rules that were found for it. -/
theorem assembled_ok {u : PolicyUpdate} {rules : Option (List Rule)}
    (h : assembled p u rules now updatedBy = .ok q) : p.Revised q ∧ q.rules = rules.getD p.rules := by
  obtain ⟨raised, hraised, h⟩ := Reading.bind_eq_ok.mp h
  obtain ⟨described, hdescribed, h⟩ := Reading.bind_eq_ok.mp h
  obtain ⟨edited, hedited, h⟩ := Reading.bind_eq_ok.mp h
  obtain rfl := Reading.pure_eq_ok.mp h
  obtain ⟨hfirst, hchanged⟩ := withChanged_ok hraised
  obtain ⟨hsecond, hkept⟩ := withMetadata_ok hdescribed
  have hcore := PolicyEdit.foldlM_apply_ok hedited
  have hthird : described.Revised edited :=
    ⟨hcore.id, hcore.tenantId, hcore.createdAt, hcore.createdBy, hcore.metadata ▸ List.prefix_refl _⟩
  obtain ⟨hid, htenant, hat, hby, hlog⟩ := (hfirst.trans hsecond).trans hthird
  exact ⟨⟨hid, htenant, hat, hby, hlog⟩, (hcore.rules.trans hkept).trans hchanged⟩

end Gate
end SupplyGate
