import SupplyGate.Value.Read
/-!
Loose fields. A record is built from a document that was read, but some of its fields may later be
set to any value. A field that then holds no part of the program's own is noticed only when
something asks it for one.
-/
namespace SupplyGate

/-- A field that holds what it should, or any other value that an edit put there. -/
inductive Loose (α : Type) where
  | held (a : α)
  | raw (v : Value)

namespace Loose

/-- What a field holds, asked for by the name of the part that is needed. -/
def part {α : Type} (field : Loose α) (name : String) : Reading α :=
  match field with
  | .held a => .ok a
  | .raw v => .error (.noPart v.qualifiedKind name)

/-- What a field holds, if it holds what it should. -/
def get? {α : Type} : Loose α → Option α
  | .held a => some a
  | .raw _ => none

theorem part_held {α : Type} (a : α) (name : String) : (Loose.held a).part name = .ok a := rfl

end Loose
end SupplyGate
