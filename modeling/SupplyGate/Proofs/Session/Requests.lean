import SupplyGate.Gate.Violations
import SupplyGate.Proofs.Gate.Outcome

/-!
# Runs of requests

A policy service starts with empty stores in memory and takes one request after the other. A request
leaves a state behind whether it is answered or refused. `Reachable` are the states that some
requests lead to; requests that only look something up lead nowhere new.
-/

namespace SupplyGate

/-- A request that can change the state of a service. -/
inductive Request where
  /-- The clock moves to a time. -/
  | setClock (now : Timestamp)
  | createPolicy (tenantId : Value) (source : PolicySource) (createdBy : Value)
  | createFromTemplate (tenantId templateId : Value) (choice : Gate.TemplateChoice) (createdBy : Value)
  | ensureTemplate (tenantId templateId createdBy : Value)
  | applyPolicy (tenantId : Value) (source : PolicySource) (appliedBy : Value)
  | updatePolicy (policyId updates updatedBy : Value)
  | deletePolicy (policyId : Value)
  | addException (policyId : Value) (e : PolicyException)
  | revokeException (policyId exceptionId revokedBy : Value)
  | expireExceptions (now : Option Timestamp)
  | resolve (violationId resolution resolvedBy : Value)
  | acknowledge (violationId acknowledgedBy assignedTo : Value)
  | suppress (violationId reason suppressedBy : Value)
  | markFalsePositive (violationId reason markedBy : Value)
  | setStrategy (strategy : UpdateStrategy)
  | evaluatePolicies (others : Collaborators) (dependencies : List Dependency) (tenantId : Value)
      (c : EvaluationContext) (cancel : Gate.Cancellation)
  /-- One dependency is evaluated against given policies, without the service. -/
  | evaluateDependency (d : Dependency) (policies : List Policy) (c : EvaluationContext)

namespace Request

open Gate

/-- What a request does. -/
def run : Request → Gate Unit
  | setClock now => modify fun s => { s with now }
  | createPolicy tenantId source createdBy => discard (Gate.createPolicy tenantId source createdBy)
  | createFromTemplate tenantId templateId choice createdBy =>
    discard (Gate.createFromTemplate tenantId templateId choice createdBy)
  | ensureTemplate tenantId templateId createdBy =>
    discard (Gate.ensureTemplate tenantId templateId createdBy)
  | applyPolicy tenantId source appliedBy => discard (Gate.applyPolicy tenantId source appliedBy)
  | updatePolicy policyId updates updatedBy => discard (Gate.updatePolicy policyId updates updatedBy)
  | deletePolicy policyId => Gate.deletePolicy policyId
  | addException policyId e => discard (Gate.addException policyId e)
  | revokeException policyId exceptionId revokedBy =>
    discard (Gate.revokeException policyId exceptionId revokedBy)
  | expireExceptions now => discard (Gate.expireExceptions now)
  | resolve violationId resolution resolvedBy =>
    discard (Gate.resolve violationId resolution resolvedBy)
  | acknowledge violationId acknowledgedBy assignedTo =>
    discard (Gate.acknowledge violationId acknowledgedBy assignedTo)
  | suppress violationId reason suppressedBy =>
    discard (Gate.suppress violationId reason suppressedBy)
  | markFalsePositive violationId reason markedBy =>
    discard (Gate.markFalsePositive violationId reason markedBy)
  | setStrategy strategy => Gate.setStrategy strategy
  | evaluatePolicies others dependencies tenantId c cancel =>
    discard (Gate.evaluatePolicies others dependencies tenantId c cancel)
  | evaluateDependency d policies c => discard (Gate.evaluateDependency d policies c)

/-- Who moves a violation by a request. -/
def mover : Request → Option Value
  | resolve _ _ resolvedBy => some resolvedBy
  | acknowledge _ acknowledgedBy _ => some acknowledgedBy
  | suppress _ _ suppressedBy => some suppressedBy
  | markFalsePositive _ _ markedBy => some markedBy
  | _ => none

/-- Whoever moves a violation can be written, as every text can. -/
def Signed (r : Request) : Prop := ∀ actor, r.mover = some actor → actor.isWritable = true

/-- The request goes to the service itself, which evaluates stored policies only. -/
def ofService : Request → Prop
  | evaluateDependency .. => False
  | _ => True

end Request

/-- The states that requests of some kind lead to, from a service with empty stores. -/
inductive Reachable (allowed : Request → Prop) : GateState → Prop where
  | start (now : Timestamp) (ids : Ids) : Reachable allowed (.start .memory now ids)
  | request {s : GateState} {r : Request} (reached : Reachable allowed s) (asked : allowed r) :
    Reachable allowed (Gate.outcome r.run s).2

/-- What a service starts with and every request keeps holds of every reachable state. -/
theorem Reachable.keeps {allowed : Request → Prop} {I : GateState → Prop} {s : GateState}
    (h : Reachable allowed s) (start : ∀ now ids, I (.start .memory now ids))
    (step : ∀ r, allowed r → Gate.Keeps I r.run) : I s := by
  induction h with
  | start now ids => exact start now ids
  | request _ asked ih => exact (step _ asked _ ih).1

/-- The states that requests of some kind lead to from a state. -/
inductive Leads (allowed : Request → Prop) (s : GateState) : GateState → Prop where
  | here : Leads allowed s s
  | request {t : GateState} {r : Request} (led : Leads allowed s t) (asked : allowed r) :
    Leads allowed s (Gate.outcome r.run t).2

/-- What every request keeps still holds where requests lead. -/
theorem Leads.keeps {allowed : Request → Prop} {I : GateState → Prop} {s t : GateState}
    (h : Leads allowed s t) (hs : I s) (step : ∀ r, allowed r → Gate.Keeps I r.run) : I t := by
  induction h with
  | here => exact hs
  | request _ asked ih => exact (step _ asked _ ih).1

theorem Reachable.mono {allowed allowed' : Request → Prop} {s : GateState} (h : Reachable allowed s)
    (hle : ∀ r, allowed r → allowed' r) : Reachable allowed' s := by
  induction h with
  | start now ids => exact .start now ids
  | request _ asked ih => exact .request ih (hle _ asked)

/-- Where requests lead from a state that requests lead to, requests lead. -/
theorem Leads.reachable {allowed asked : Request → Prop} {s t : GateState} (h : Leads asked s t)
    (hs : Reachable allowed s) : Reachable (fun _ => True) t := by
  induction h with
  | here => exact hs.mono fun _ _ => trivial
  | request _ _ ih => exact .request ih trivial

end SupplyGate
