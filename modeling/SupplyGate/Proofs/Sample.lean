import SupplyGate.Gate.State
import SupplyGate.Proofs.Value.Reading

/-!
# The smallest inputs

A dependency, a rule that fires on every dependency, and policies of one rule, for statements about
one particular run.
-/

namespace SupplyGate.Sample

/-- A moment of the summer of 2024. -/
def moment : Timestamp where
  date := ⟨2024, 6, 1, by decide, by decide, by decide⟩
  hour := ⟨12, by decide⟩
  minute := ⟨34, by decide⟩
  second := ⟨56, by decide⟩
  micro := ⟨789, by decide⟩
  offset := some Offset.utc

/-- Version 1 of a package, about which nothing else is known. -/
def dependency (name : String) : Dependency where
  name
  version := "1"
  ecosystem := ""
  type := .direct
  scope := .production
  licenses := []
  lastUpdate := .null
  packageFile := ""
  description := .null
  repository := .null
  maintainers := []
  downloads := .null
  metadata := []

/-- The condition that a field is absent. -/
def absent (field : Value) : Condition := ⟨field, "not_exists", .null, .null⟩

/-- A rule with a condition, which warns. -/
def rule (id : Value) (condition : Condition) : Rule where
  id
  name := "r"
  description := ""
  type := "CUSTOM"
  severity := .held .medium
  enabled := .bool true
  conditions := [condition]
  actions := [⟨"WARN", .empty, .bool true⟩]
  metadata := .held ⟨[], "", "", [], none, "MEDIUM"⟩

/-- An enabled policy of a tenant, with rules and exceptions. -/
def policy (tenantId id : Value) (rules : List Rule) (exceptions : List PolicyException) : Policy where
  id
  tenantId
  name := "p"
  description := ""
  version := "1.0.0"
  enabled := .bool true
  priority := .int 100
  scope := .held .everything
  rules
  enforcement := .held .standard
  exceptions := .held (exceptions.map .held)
  metadata := ⟨"", .null, .null, [], [], none, none, []⟩
  createdAt := moment
  updatedAt := moment
  createdBy := "system"
  approvedBy := .null
  approvedAt := .null

/-- A gate at that moment, with empty stores in memory. -/
def gate : GateState := .start .memory moment {}

/-- A policy was given, in some version. -/
def gives (version : String) (r : Reading Policy) : Bool := r.toOption.any (·.version.same (.str version))

theorem of_gives {version : String} {r : Reading Policy} (h : gives version r = true) :
    ∃ q, r = .ok q ∧ q.version = .str version := by
  cases r with
  | error f => cases h
  | ok q => exact ⟨q, rfl, Value.eq_str_of_same h⟩

end SupplyGate.Sample
