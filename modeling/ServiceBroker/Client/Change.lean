import ServiceBroker.Client.Dialogue
import ServiceBroker.Client.Tracked

/-!
# Changes

A `Change` is one of the four requests that change a broker's state. Asking
for it takes one round trip, and what comes back is its outcome, with the
binding if one was created. A change that was accepted is tracked under its
own identifiers.
-/

namespace ServiceBroker

/-- **A request that changes the state.** -/
inductive Change where
  | provision (request : ProvisionRequest)
  | deprovision (request : DeprovisionRequest)
  | bind (request : BindRequest)
  | unbind (request : UnbindRequest)

namespace Change

/-- **The operation that a change is tracked as**, once the broker has accepted
it with a token or without. -/
def track (token : Option String) : Change → TrackedOperation
  | .provision r =>
    { kind := .provision, instanceId := r.instanceId, serviceId := r.serviceId,
      planId := r.planId, operation := token }
  | .deprovision r =>
    { kind := .deprovision, instanceId := r.instanceId, serviceId := r.serviceId,
      planId := r.planId, operation := token }
  | .bind r =>
    { kind := .bind r.bindingId, instanceId := r.instanceId, serviceId := r.serviceId,
      planId := r.planId, operation := token }
  | .unbind r =>
    { kind := .unbind r.bindingId, instanceId := r.instanceId, serviceId := r.serviceId,
      planId := r.planId, operation := token }

/-- **Asking a broker for the change.** A complete one has a binding if one was
asked for. -/
def ask (broker : Broker) : Change →
    Dialogue (Except CallError (Outcome (Option Binding)))
  | .provision r => do return (← broker.call .provision r).map (·.map fun _ => none)
  | .deprovision r => do return (← broker.call .deprovision r).map (·.map fun _ => none)
  | .bind r => do return (← broker.call .bind r).map (·.map some)
  | .unbind r => do return (← broker.call .unbind r).map (·.map fun _ => none)

end Change

end ServiceBroker
