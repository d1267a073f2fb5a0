import SupplyGate.Policy.Operator
import SupplyGate.Proofs.Value.Equality

/-!
# The algebra of the operators

Each operator that denies is the opposite of the one that it denies where that one has a meaning, and where it
has none both are false (`Operator.Laws`). Membership goes by the equality of values, which is an equivalence on
what documents are made of.
-/

namespace SupplyGate

/-! ## Kinds of values -/

namespace Value

/-- The value is a list. -/
def IsList (v : Value) : Prop := ∃ items, v = .list items

/-- The value is a number. Truth values are none. -/
def IsNumber (v : Value) : Prop := (∃ n, v = .int n) ∨ ∃ x, v = .float x

/-- Both values are texts. -/
def BothTexts (v w : Value) : Prop := (∃ s, v = .str s) ∧ ∃ t, w = .str t

/-- Both values are numbers. -/
def BothNumbers (v w : Value) : Prop := v.IsNumber ∧ w.IsNumber

/-- A value can be asked whether it contains another one: a list whatever that is, a text if that is a text. -/
def CanContain (v part : Value) : Prop := v.IsList ∨ v.BothTexts part

theorem elem_iff {v : Value} {items : List Value} (hv : v.Plain) (hitems : ∀ w ∈ items, w.Plain) :
    v.elem items = true ↔ ∃ w ∈ items, w.Equal v := by
  rw [elem, List.any_eq_true]
  exact exists_congr fun w => and_congr_right fun hw => same_iff_equal (hitems w hw) hv

end Value

namespace Operator

variable {actual expected : Value}

/-! ## Names -/

/-- The test with this name holds of an actual value and an expected one. -/
def Holds (name : Value) (actual expected : Value) : Prop := operatorTest name actual expected = true

instance (name actual expected : Value) : Decidable (Holds name actual expected) :=
  inferInstanceAs (Decidable (operatorTest name actual expected = true))

@[simp] theorem ofText?_toText (op : Operator) : (Scale.ofText? op.toText : Option Operator) = some op := by
  cases op <;> decide

/-- The name of an operator stands for its test. -/
theorem holds_iff (op : Operator) : Holds op.toText actual expected ↔ op.test actual expected = true := by
  simp [Holds, operatorTest, ofValue?]

/-- What is no operator's name stands for none. -/
theorem ofValue?_eq_none {name : Value} (h : ∀ op : Operator, name ≠ op.toText) : ofValue? name = none := by
  unfold ofValue?
  split
  · next s =>
    refine List.find?_eq_none.mpr fun op _ hop => h op ?_
    rw [← beq_iff_eq.mp hop]
    rfl
  · rfl

/-! ## Where tests have a meaning -/

theorem holds?_isSome : (holds? actual expected).isSome ↔ actual.CanContain expected := by
  unfold holds?
  split
  · simp [Value.CanContain, Value.BothTexts]
  · simp [Value.CanContain, Value.IsList]
  · next hlist htexts =>
    refine iff_of_false (by simp) ?_
    rintro (⟨items, rfl⟩ | ⟨⟨s, rfl⟩, t, rfl⟩)
    · exact hlist items rfl
    · exact htexts s t rfl rfl

theorem among?_isSome : (among? actual expected).isSome ↔ expected.IsList := by
  unfold among?
  split
  · simp [Value.IsList]
  · simp [Value.IsList]
  · next hlist _ =>
    refine iff_of_false (by simp) ?_
    rintro ⟨others, rfl⟩
    exact hlist others rfl

/-- A test with a meaning holds or its denial does, not both. -/
theorem denied_of_isSome {found : Option Bool} (h : found.isSome) : found.any (!·) = true ↔ ¬ found.getD false = true := by
  obtain ⟨b, rfl⟩ := Option.isSome_iff_exists.mp h
  simp

/-- Neither a test without a meaning holds nor its denial. -/
theorem denied_of_not_isSome {found : Option Bool} (h : ¬ found.isSome) :
    ¬ found.getD false = true ∧ ¬ found.any (!·) = true := by
  obtain rfl := Option.not_isSome_iff_eq_none.mp h
  simp

theorem onTexts_bothTexts {test : String → String → Bool} (h : onTexts test actual expected = true) :
    actual.BothTexts expected := by
  unfold onTexts at h
  split at h
  · next s t => exact ⟨⟨s, rfl⟩, t, rfl⟩
  · cases h

theorem isNumber_of_number? {v : Value} {x : Number.Extended} (h : number? v = some x) : v.IsNumber := by
  unfold number? at h
  split at h
  · next n => exact .inl ⟨n, rfl⟩
  · next y => exact .inr ⟨y, rfl⟩
  · cases h

theorem onNumbers_bothNumbers {test : Number.Extended → Number.Extended → Bool}
    (h : onNumbers test actual expected = true) : actual.BothNumbers expected := by
  unfold onNumbers at h
  split at h
  · next hx hy => exact ⟨isNumber_of_number? hx, isNumber_of_number? hy⟩
  · cases h

/-! ## Laws -/

/-- The laws of the operators, on an actual value and an expected one. -/
structure Laws (actual expected : Value) : Prop where
  equals : Holds "equals" actual expected ↔ actual.Equal expected
  notEquals : Holds "not_equals" actual expected ↔ ¬ Holds "equals" actual expected
  absent : Holds "not_exists" actual expected ↔ ¬ Holds "exists" actual expected
  notContains : actual.CanContain expected →
    (Holds "not_contains" actual expected ↔ ¬ Holds "contains" actual expected)
  cannotContain : ¬ actual.CanContain expected →
    ¬ Holds "contains" actual expected ∧ ¬ Holds "not_contains" actual expected
  notWithin : expected.IsList → (Holds "not_in" actual expected ↔ ¬ Holds "in" actual expected)
  noList : ¬ expected.IsList → ¬ Holds "in" actual expected ∧ ¬ Holds "not_in" actual expected
  listContains : ∀ items, actual = .list items →
    (Holds "contains" actual expected ↔ ∃ x ∈ items, x.Equal expected)
  valueWithin : ¬ actual.IsList →
    (Holds "in" actual expected ↔ ∃ others, expected = .list others ∧ ∃ y ∈ others, y.Equal actual)
  listWithin : ∀ items, actual = .list items →
    (Holds "in" actual expected ↔ expected.IsList ∧ ∃ x ∈ items, Holds "contains" expected x)
  texts : ¬ actual.BothTexts expected → ∀ name ∈ ["starts_with", "ends_with", "matches"],
    ¬ Holds name actual expected
  numbers : ¬ actual.BothNumbers expected →
    ∀ name ∈ ["greater_than", "less_than", "greater_equal", "less_equal"], ¬ Holds name actual expected
  others : ∀ name : Value, (∀ op : Operator, name ≠ op.toText) → ¬ Holds name actual expected

theorem holds_equals (ha : actual.Plain) (he : expected.Plain) :
    Holds "equals" actual expected ↔ actual.Equal expected :=
  (holds_iff .equals).trans (Value.same_iff_equal ha he)

theorem holds_notEquals : Holds "not_equals" actual expected ↔ ¬ Holds "equals" actual expected := by
  refine (holds_iff .notEquals).trans (Iff.trans ?_ (holds_iff .equals).not.symm)
  simp [test]

theorem holds_absent : Holds "not_exists" actual expected ↔ ¬ Holds "exists" actual expected := by
  refine (holds_iff .absent).trans (Iff.trans ?_ (holds_iff .present).not.symm)
  simp [test]

theorem holds_contains : Holds "contains" actual expected ↔ (holds? actual expected).getD false = true := holds_iff .contains

theorem holds_notContains : Holds "not_contains" actual expected ↔ (holds? actual expected).any (!·) = true :=
  holds_iff .notContains

theorem holds_within : Holds "in" actual expected ↔ (among? actual expected).getD false = true := holds_iff .within

theorem holds_notWithin : Holds "not_in" actual expected ↔ (among? actual expected).any (!·) = true := holds_iff .notWithin

/-- A list contains what equals some item of it. -/
theorem list_contains {items : List Value} {v : Value} (hitems : ∀ w ∈ items, w.Plain) (hv : v.Plain) :
    Holds "contains" (.list items) v ↔ ∃ x ∈ items, x.Equal v :=
  holds_contains.trans (Value.elem_iff hv hitems)

/-- A value that is no list is in a list that has an item which equals it. -/
theorem value_within (ha : actual.Plain) (he : expected.Plain) (hlist : ¬ actual.IsList) :
    Holds "in" actual expected ↔ ∃ others, expected = .list others ∧ ∃ y ∈ others, y.Equal actual := by
  rw [holds_within]
  unfold among?
  split
  · next items others => exact absurd ⟨items, rfl⟩ hlist
  · next others =>
    obtain _ | hothers | _ := he
    simpa using Value.elem_iff ha hothers
  · next h _ =>
    refine iff_of_false (by simp) ?_
    rintro ⟨others, rfl, -⟩
    exact h others rfl

/-- A list is in a list that contains some item of it. -/
theorem list_within {items : List Value} :
    Holds "in" (.list items) expected ↔ expected.IsList ∧ ∃ x ∈ items, Holds "contains" expected x := by
  rw [holds_within]
  unfold among?
  split
  · next items' others heq =>
    obtain rfl := Value.list.inj heq
    simp [holds_contains, holds?, Value.IsList]
  · next others hne => exact (hne items rfl).elim
  · next h _ =>
    refine iff_of_false (by simp) ?_
    rintro ⟨⟨others, rfl⟩, -⟩
    exact h others rfl

theorem bothTexts_of_holds {name : String} (hname : name ∈ ["starts_with", "ends_with", "matches"])
    (h : Holds name actual expected) : actual.BothTexts expected := by
  simp only [List.mem_cons, List.not_mem_nil, or_false] at hname
  obtain rfl | rfl | rfl := hname
  · exact onTexts_bothTexts ((holds_iff .startsWith).mp h)
  · exact onTexts_bothTexts ((holds_iff .endsWith).mp h)
  · exact onTexts_bothTexts ((holds_iff .matchesPattern).mp h)

theorem bothNumbers_of_holds {name : String} (hname : name ∈ ["greater_than", "less_than", "greater_equal", "less_equal"])
    (h : Holds name actual expected) : actual.BothNumbers expected := by
  simp only [List.mem_cons, List.not_mem_nil, or_false] at hname
  obtain rfl | rfl | rfl | rfl := hname
  · exact onNumbers_bothNumbers ((holds_iff .greaterThan).mp h)
  · exact onNumbers_bothNumbers ((holds_iff .lessThan).mp h)
  · exact onNumbers_bothNumbers ((holds_iff .greaterEqual).mp h)
  · exact onNumbers_bothNumbers ((holds_iff .lessEqual).mp h)

/-- The operators follow their laws on all values that documents are made of. -/
theorem laws (actual expected : Value) (ha : actual.Plain) (he : expected.Plain) : Laws actual expected where
  equals := holds_equals ha he
  notEquals := holds_notEquals
  absent := holds_absent
  notContains h := by
    rw [holds_contains, holds_notContains]
    exact denied_of_isSome (holds?_isSome.mpr h)
  cannotContain h := by
    rw [holds_contains, holds_notContains]
    exact denied_of_not_isSome (holds?_isSome.not.mpr h)
  notWithin h := by
    rw [holds_within, holds_notWithin]
    exact denied_of_isSome (among?_isSome.mpr h)
  noList h := by
    rw [holds_within, holds_notWithin]
    exact denied_of_not_isSome (among?_isSome.not.mpr h)
  listContains := by
    rintro items rfl
    obtain _ | hitems | _ := ha
    exact list_contains hitems he
  valueWithin := value_within ha he
  listWithin := by
    rintro items rfl
    exact list_within
  texts h name hname hholds := h (bothTexts_of_holds hname hholds)
  numbers h name hname hholds := h (bothNumbers_of_holds hname hholds)
  others name hname h := by
    rw [Holds, operatorTest, ofValue?_eq_none hname] at h
    cases h

/-- The laws on two lists: one is an item of the first and equals the truth value that the second one has. -/
theorem laws_number_and_truth : (Value.list [.int 1, "a"]).Plain ∧ (Value.list [.bool true]).Plain ∧
    Laws (.list [.int 1, "a"]) (.list [.bool true]) := by
  have hactual : (Value.list [.int 1, "a"]).Plain := by
    refine .list fun v hv => ?_
    simp only [List.mem_cons, List.not_mem_nil, or_false] at hv
    obtain rfl | rfl := hv
    · exact .scalar trivial
    · exact .scalar trivial
  have hexpected : (Value.list [.bool true]).Plain := .list fun v hv => List.mem_singleton.mp hv ▸ .scalar trivial
  exact ⟨hactual, hexpected, laws _ _ hactual hexpected⟩

/-- A list is in no text, also where the text contains an item of the list. -/
theorem list_not_within_text : ¬ (Holds "in" (.list ["a"]) "abc" ↔ ∃ x ∈ [Value.str "a"], Holds "contains" "abc" x) := by
  decide

end Operator
end SupplyGate
