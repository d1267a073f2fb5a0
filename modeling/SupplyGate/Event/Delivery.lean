import SupplyGate.Event.Bus
import SupplyGate.Event.Payload
/-!
Delivery of events to the outside: to the handlers of a bus, as lines of a log, and as documents
posted to an endpoint. Delivery to a log or to an endpoint fails where the payload cannot be
written; an endpoint that refuses a post or cannot be reached makes no difference.
-/
namespace SupplyGate

inductive Outlet where
  | bus
  | log
  | endpoint
  deriving DecidableEq

/-- What has been delivered: to which handlers, as which lines, and as which posts. -/
structure Outbox (η : Type) where
  handled : List η
  lines : List String
  posts : List String

/-- Nothing has been delivered. -/
def Outbox.empty {η : Type} : Outbox η := ⟨[], [], []⟩

namespace Outlet

def logLine (event : String) (payload : Payload) : Reading String := do
  return event ++ ": " ++ (← payload.toJson)

/-- The post of an event to an endpoint. It tells the time of the clock without its offset. -/
def postText (now : Timestamp) (event : String) (payload : Payload) : Reading String :=
  (Payload.fields [
    ("event", Value.str event),
    ("payload", payload),
    ("sent_at", Value.str { now with offset := none }.format)]).toJson

variable {η : Type}

/-- A handler hears of an event; those for which `fails` holds fail afterwards. -/
def hear (fails : η → Bool) (h : η) : ExceptT Fault (StateM (Outbox η)) Unit := do
  modify fun s => { s with handled := s.handled ++ [h] }
  if fails h then throw (.collaborator "handler failed" "RuntimeError")

def deliver (b : EventBus η) (fails : η → Bool) (now : Timestamp) (event : String)
    (payload : Payload) : Outlet → ExceptT Fault (StateM (Outbox η)) Unit
  | .bus => liftM (b.publish event (hear fails))
  | .log => do
    let line ← ExceptT.mk (pure (logLine event payload))
    modify fun s => { s with lines := s.lines ++ [line] }
  | .endpoint => do
    let post ← ExceptT.mk (pure (postText now event payload))
    modify fun s => { s with posts := s.posts ++ [post] }

/-- Deliver an event to several outlets in turn; the first failure ends the delivery. -/
def deliverAll (b : EventBus η) (fails : η → Bool) (now : Timestamp) (event : String)
    (payload : Payload) (outlets : List Outlet) : ExceptT Fault (StateM (Outbox η)) Unit :=
  outlets.forM (deliver b fails now event payload)

end Outlet
end SupplyGate
