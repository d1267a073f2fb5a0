/-!
Record ids. An id is a prefix and a number of at least twelve hexadecimal digits; each prefix counts
on its own, and a number is used up as soon as it is given out, whether or not the record is kept.
-/
namespace SupplyGate

/-- The kinds of records that get ids of their own. -/
inductive IdKind where
  | policy
  | rule
  | exception
  | violation
  | evaluation
  | assessment
  | factor
  | strategy
  deriving DecidableEq

def IdKind.label : IdKind → String
  | .policy => "policy"
  | .rule => "rule"
  | .exception => "exception"
  | .violation => "violation"
  | .evaluation => "eval"
  | .assessment => "assess"
  | .factor => "factor"
  | .strategy => "strategy"

/-- How many ids of each kind were given out. -/
structure Ids where
  policy : Nat := 0
  rule : Nat := 0
  exception : Nat := 0
  violation : Nat := 0
  evaluation : Nat := 0
  assessment : Nat := 0
  factor : Nat := 0
  strategy : Nat := 0
  deriving DecidableEq

namespace Ids

/-- How many ids of a kind were given out. -/
def count (ids : Ids) : IdKind → Nat
  | .policy => ids.policy
  | .rule => ids.rule
  | .exception => ids.exception
  | .violation => ids.violation
  | .evaluation => ids.evaluation
  | .assessment => ids.assessment
  | .factor => ids.factor
  | .strategy => ids.strategy

def bump (ids : Ids) : IdKind → Ids
  | .policy => { ids with policy := ids.policy + 1 }
  | .rule => { ids with rule := ids.rule + 1 }
  | .exception => { ids with exception := ids.exception + 1 }
  | .violation => { ids with violation := ids.violation + 1 }
  | .evaluation => { ids with evaluation := ids.evaluation + 1 }
  | .assessment => { ids with assessment := ids.assessment + 1 }
  | .factor => { ids with factor := ids.factor + 1 }
  | .strategy => { ids with strategy := ids.strategy + 1 }

/-- The number of an id as hexadecimal digits. -/
def digits (n : Nat) : List Char :=
  let ds := Nat.toDigits 16 n
  List.replicate (12 - ds.length) '0' ++ ds

def textOf (kind : IdKind) (n : Nat) : String :=
  kind.label ++ "_" ++ String.ofList (digits n)

/-- The next id of a kind, and the counters after it. -/
def next (ids : Ids) (kind : IdKind) : String × Ids :=
  let ids := ids.bump kind
  (textOf kind (ids.count kind), ids)

theorem count_bump (ids : Ids) (k l : IdKind) :
    (ids.bump k).count l = ids.count l + if k = l then 1 else 0 := by
  cases k <;> cases l <;> rfl

end Ids
end SupplyGate
