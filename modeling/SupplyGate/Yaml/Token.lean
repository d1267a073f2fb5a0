/-!
The tokens of a YAML text: marks of structure, of which the layout implies some, and scalars.
-/
namespace SupplyGate.Yaml

/-- A directive in front of a document. -/
inductive Directive where
  | version (major minor : Nat)
  | tagHandle (handle tagPrefix : String)
  | other
  deriving DecidableEq, Repr

inductive Token where
  | directive (d : Directive)
  | documentStart
  | documentEnd
  /-- A list by layout begins. -/
  | blockListStart
  /-- A map by layout begins. -/
  | blockMapStart
  /-- A collection by layout ends. -/
  | blockEnd
  | flowListStart
  | flowListEnd
  | flowMapStart
  | flowMapEnd
  /-- An item of a list by layout begins. -/
  | item
  /-- An entry of a collection in brackets ends. -/
  | comma
  | key
  | value
  | alias (name : String)
  | anchor (name : String)
  | tag (handle : Option String) (suffix : String)
  | scalar (plain : Bool) (text : String)
  deriving DecidableEq, Repr

end SupplyGate.Yaml
