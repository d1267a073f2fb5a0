import SupplyGate.Text.Case
import SupplyGate.Text.Quoted
import SupplyGate.Number.Decimal
import SupplyGate.Number.Numeral
import SupplyGate.Time.Calendar
import SupplyGate.Time.Iso8601
import SupplyGate.Value.Basic
import SupplyGate.Fault
import SupplyGate.Value.Read
import SupplyGate.Inventory.Dependency
import SupplyGate.Inventory.Vulnerability
import SupplyGate.Value.Arithmetic
import SupplyGate.Ids
import SupplyGate.Risk.Level
import SupplyGate.Risk.BusinessContext
import SupplyGate.Risk.Criteria
import SupplyGate.Risk.Factor
import SupplyGate.Risk.Score
import SupplyGate.Risk.Mitigation
import SupplyGate.Risk.Assessment
import SupplyGate.Value.Loose
import SupplyGate.Policy.Condition
import SupplyGate.Policy.Action
import SupplyGate.Policy.Rule
import SupplyGate.Policy.Exception
import SupplyGate.Policy.Basic
import SupplyGate.Pattern.Match
import SupplyGate.Pattern.Read
import SupplyGate.Policy.Operator
import SupplyGate.Policy.Context
import SupplyGate.Policy.Field
import SupplyGate.Policy.Fold
import SupplyGate.Policy.Violation
import SupplyGate.Policy.Evaluation
import SupplyGate.Policy.UpdateStrategy
import SupplyGate.Policy.Version
import SupplyGate.Policy.Validation
import SupplyGate.Policy.Template
import SupplyGate.Policy.Selection
import SupplyGate.Store.Basic
import SupplyGate.Event.Basic
import SupplyGate.Gate.State
import SupplyGate.Gate.Evaluator
import SupplyGate.Gate.Violations
import SupplyGate.Gate.Risk
import SupplyGate.Event.Bus
import SupplyGate.Event.Delivery
import SupplyGate.Yaml.Cursor
import SupplyGate.Yaml.Token
import SupplyGate.Yaml.Quoted
import SupplyGate.Yaml.Block
import SupplyGate.Yaml.Plain
import SupplyGate.Yaml.Mark
import SupplyGate.Yaml.Layout
import SupplyGate.Yaml.Node
import SupplyGate.Yaml.Typing
import SupplyGate.Yaml.Document
import SupplyGate.Inventory.Basic
import SupplyGate.Files
import SupplyGate.CommandLine.Arguments
import SupplyGate.CommandLine.Command
import SupplyGate.CommandLine.Session
import SupplyGate.Main
import SupplyGate.Proofs.Value.Reading
import SupplyGate.Proofs.Value.Ranking
import SupplyGate.Proofs.Policy.Selection
import SupplyGate.Proofs.Store.Memory
import SupplyGate.Proofs.Policy.Identity
import SupplyGate.Proofs.Policy.PlainText
import SupplyGate.Proofs.Store.Filed
import SupplyGate.Proofs.Ids
import SupplyGate.Proofs.Gate.Outcome
import SupplyGate.Proofs.Gate.Steps
import SupplyGate.Proofs.Sample
import SupplyGate.Proofs.Gate.Evaluation
import SupplyGate.Proofs.Gate.Actions
import SupplyGate.Proofs.Gate.Runs
import SupplyGate.Proofs.Gate.Filing
import SupplyGate.Proofs.Gate.Readiness
import SupplyGate.Proofs.Gate.Accounting
import SupplyGate.Proofs.Session.Requests
import SupplyGate.Proofs.Session.Law
import SupplyGate.Proofs.Session.Invariants
import SupplyGate.Proofs.Session.Identity
import SupplyGate.Proofs.Policy.Validation
import SupplyGate.Proofs.Gate.Legible
import SupplyGate.Proofs.Gate.Summary
import SupplyGate.Proofs.Gate.Completion
import SupplyGate.Proofs.Gate.Skipping
import SupplyGate.Proofs.Session.Serving
import SupplyGate.Proofs.Session.Evaluable
import SupplyGate.Proofs.Gate.Course
import SupplyGate.Proofs.Store.Refiling
import SupplyGate.Proofs.Gate.Recording
import SupplyGate.Proofs.Gate.Endings
import SupplyGate.Proofs.Session.Rerun
import SupplyGate.Proofs.Session.Attempts
import SupplyGate.Proofs.Session.Independence
import SupplyGate.Proofs.Session.Lifecycle
import SupplyGate.Proofs.Gate.Planned
import SupplyGate.Proofs.Session.Grades
import SupplyGate.Proofs.Policy.Approval
import SupplyGate.Proofs.Gate.Fixes
import SupplyGate.Proofs.Session.Fixes
import SupplyGate.Proofs.Policy.Revision
import SupplyGate.Proofs.Policy.Reapplied
import SupplyGate.Proofs.Session.Applying
import SupplyGate.Proofs.Policy.Expiry
import SupplyGate.Proofs.Gate.Sweeping
import SupplyGate.Proofs.Session.Expiry
import SupplyGate.Proofs.Session.Ensuring
import SupplyGate.Proofs.Gate.Settling
import SupplyGate.Proofs.Policy.RuleIds
import SupplyGate.Proofs.Policy.Trail
import SupplyGate.Proofs.Session.Writing
import SupplyGate.Proofs.Session.Effects
import SupplyGate.Proofs.Session.Trail
import SupplyGate.Proofs.Gate.Findings
import SupplyGate.Proofs.Session.Relabelling
import SupplyGate.Proofs.Session.RuleIdentity
import SupplyGate.Proofs.Time.Timestamps
import SupplyGate.Proofs.Gate.Numbering
import SupplyGate.Proofs.Risk.Mitigations
import SupplyGate.Proofs.Risk.Factors
import SupplyGate.Proofs.Risk.Assessments
import SupplyGate.Proofs.Risk.Requests
import SupplyGate.Proofs.Session.Operations
import SupplyGate.Proofs.Session.Refusals
import SupplyGate.Proofs.Text.Case
import SupplyGate.Proofs.Value.Documents
import SupplyGate.Proofs.Value.Overlay
import SupplyGate.Proofs.Inventory.Documents
import SupplyGate.Proofs.Risk.Documents
import SupplyGate.Proofs.Policy.Documents
import SupplyGate.Proofs.Policy.FindingDocuments
import SupplyGate.Proofs.Store.Recoding
import SupplyGate.Proofs.Value.Storable
import SupplyGate.Proofs.Policy.Storable
import SupplyGate.Proofs.Policy.StorableFindings
import SupplyGate.Proofs.Policy.StorableDocuments
import SupplyGate.Proofs.Policy.StorableUpdates
import SupplyGate.Proofs.Gate.Unsaid
import SupplyGate.Proofs.Store.Mirrored
import SupplyGate.Proofs.Gate.Twins
import SupplyGate.Proofs.Gate.TwinFindings
import SupplyGate.Proofs.Gate.TwinActions
import SupplyGate.Proofs.Gate.TwinRuns
import SupplyGate.Proofs.Session.TwinPolicies
import SupplyGate.Proofs.Session.TwinViolations
import SupplyGate.Proofs.Session.Backends
import SupplyGate.Proofs.Policy.Folding
import SupplyGate.Proofs.Gate.Totals
import SupplyGate.Proofs.Risk.Lineage
import SupplyGate.Proofs.Session.Links
import SupplyGate.Proofs.Value.Faults
import SupplyGate.Proofs.Value.RecordFaults
import SupplyGate.Proofs.Gate.Faults
import SupplyGate.Proofs.CommandLine.Loading
import SupplyGate.Proofs.CommandLine.ExitCodes
import SupplyGate.Proofs.Value.Equality
import SupplyGate.Proofs.Policy.Operators
import SupplyGate.Proofs.Policy.ChangeLog
import SupplyGate.Proofs.Session.ChangeLog
import SupplyGate.Proofs.Gate.Parallel
import SupplyGate.Proofs.Gate.SeparateActions
import SupplyGate.Proofs.Session.Triage
import SupplyGate.Proofs.CommandLine.Loaded
import SupplyGate.Proofs.Gate.Framing
import SupplyGate.Proofs.Session.Framing
import SupplyGate.Proofs.Number.Numerals
import SupplyGate.Proofs.Policy.Version
import SupplyGate.Proofs.Event.Delivery
import SupplyGate.Proofs.Store.SecondKeys
import SupplyGate.Proofs.Number.DecimalText
import SupplyGate.Proofs.Risk.Rounding
