import SupplyGate.Pattern.Match
import SupplyGate.Pattern.Read
import SupplyGate.Value.Arithmetic
/-!
Condition operators: fifteen tests of an actual value against an expected one. A test of values that
it has no meaning for is false, also a negated one: `notContains` of a number does not hold.
-/
namespace SupplyGate

/-- The operators of conditions. -/
inductive Operator where
  | equals
  | notEquals
  | contains
  | notContains
  | startsWith
  | endsWith
  | matchesPattern
  | greaterThan
  | lessThan
  | greaterEqual
  | lessEqual
  | within
  | notWithin
  | present
  | absent
  deriving DecidableEq, Repr

namespace Operator

def toText : Operator → String
  | .equals => "equals"
  | .notEquals => "not_equals"
  | .contains => "contains"
  | .notContains => "not_contains"
  | .startsWith => "starts_with"
  | .endsWith => "ends_with"
  | .matchesPattern => "matches"
  | .greaterThan => "greater_than"
  | .lessThan => "less_than"
  | .greaterEqual => "greater_equal"
  | .lessEqual => "less_equal"
  | .within => "in"
  | .notWithin => "not_in"
  | .present => "exists"
  | .absent => "not_exists"

instance : Scale Operator where
  title := "ConditionOperator"
  members := [
    .equals, .notEquals, .contains, .notContains, .startsWith, .endsWith, .matchesPattern,
    .greaterThan, .lessThan, .greaterEqual, .lessEqual, .within, .notWithin, .present, .absent]
  text := toText

/-- Whether a value holds another one, where that has a meaning. -/
def holds? : Value → Value → Option Bool
  | .str s, .str part => some (Text.contains s part)
  | .list items, v => some (v.elem items)
  | _, _ => none

/-- Whether a value, or some item of a list, is among others, where that has a meaning. -/
def among? : Value → Value → Option Bool
  | .list items, .list others => some (items.any (·.elem others))
  | v, .list others => some (v.elem others)
  | _, _ => none

def onTexts (test : String → String → Bool) : Value → Value → Bool
  | .str s, .str t => test s t
  | _, _ => false

/-- The number that a value is. Truth values are none here. -/
def number? : Value → Option Number.Extended
  | .int n => some (.ofInt n)
  | .float x => some (.ofFloat x)
  | _ => none

def onNumbers (test : Number.Extended → Number.Extended → Bool) (a b : Value) : Bool :=
  match number? a, number? b with
  | some x, some y => test x y
  | _, _ => false

/-- A text holds a match of a pattern; there is none of what is no pattern. -/
def search (s pattern : String) : Bool := (Pattern.read? pattern).any (·.foundIn s)

/-- There is nothing in the value: null, an empty collection or an empty text. -/
def isAbsent : Value → Bool
  | .null => true
  | .str s => s == ""
  | .list items => items.isEmpty
  | .map entries => entries.isEmpty
  | _ => false

/-- The operator's test of an actual value against an expected one. -/
def test (actual expected : Value) : Operator → Bool
  | .equals => actual.same expected
  | .notEquals => !actual.same expected
  | .contains => (holds? actual expected).getD false
  | .notContains => (holds? actual expected).any (!·)
  | .startsWith => onTexts (fun s t => t.toList.isPrefixOf s.toList) actual expected
  | .endsWith => onTexts (fun s t => t.toList.isSuffixOf s.toList) actual expected
  | .matchesPattern => onTexts search actual expected
  | .greaterThan => onNumbers (fun x y => y.less x) actual expected
  | .lessThan => onNumbers (fun x y => x.less y) actual expected
  | .greaterEqual => onNumbers (fun x y => y.atMost x) actual expected
  | .lessEqual => onNumbers (fun x y => x.atMost y) actual expected
  | .within => (among? actual expected).getD false
  | .notWithin => (among? actual expected).any (!·)
  | .present => !isAbsent actual
  | .absent => isAbsent actual

def ofValue? : Value → Option Operator
  | .str s => Scale.ofText? s
  | _ => none

end Operator

/-- The test that a value names, of an actual value against an expected one; a name that is no
operator's holds of nothing. -/
def operatorTest (operator actual expected : Value) : Bool :=
  (Operator.ofValue? operator).any (·.test actual expected)

end SupplyGate
