import SupplyGate.Fault
/-!
An event bus: subscriptions to events by name, or to all events. A published event goes to the
handlers of its name and then to those of all events, each group in the order in which it
subscribed. A handler that fails is passed over, and the others still hear of the event.
-/
namespace SupplyGate

/-- A handler that hears of the events with a name. -/
structure Subscription (η : Type) where
  event : String
  handler : η
  deriving DecidableEq

/-- The subscriptions of a bus, the oldest first. -/
structure EventBus (η : Type) where
  subscriptions : List (Subscription η)

namespace EventBus

variable {η : Type}

/-- The name that stands for all events. -/
def everyEvent : String := "*"

def empty : EventBus η := ⟨[]⟩

/-- The bus with one more subscription. -/
def subscribe (b : EventBus η) (event : String) (handler : η) : EventBus η :=
  ⟨b.subscriptions ++ [⟨event, handler⟩]⟩

/-- The bus without the oldest subscription of a handler to a name. -/
def unsubscribe [DecidableEq η] (b : EventBus η) (event : String) (handler : η) : EventBus η :=
  ⟨b.subscriptions.erase ⟨event, handler⟩⟩

/-- The handlers that subscribed to a name, in order. -/
def handlersOf (b : EventBus η) (event : String) : List η :=
  (b.subscriptions.filter (·.event = event)).map (·.handler)

/-- The handlers that an event with a name goes to, in order. -/
def recipients (b : EventBus η) (event : String) : List η :=
  b.handlersOf event ++ b.handlersOf everyEvent

/-- Let every recipient of an event handle it. -/
def publish {σ : Type} (b : EventBus η) (event : String)
    (handle : η → ExceptT Fault (StateM σ) Unit) : StateM σ Unit :=
  (b.recipients event).forM fun h => discard (handle h).run

end EventBus
end SupplyGate
