import ServiceBroker.Broker
import ServiceBroker.Endpoint
import ServiceBroker.Http
import ServiceBroker.Message.Request
import ServiceBroker.Operation

/-!
# The request of a call

Every operation takes an input of its own type (`Operation.Input`) and is sent
to one endpoint with one method. The request is put together in one place,
`Broker.request`, from what the operation says: the query begins with the
consent to a later answer if the operation changes the state, correlation
fields follow in order unless they are open or empty, and there is a body
exactly for the two operations that create something.
-/

namespace ServiceBroker

namespace Operation

/-- **What a caller has to give for an operation.** -/
abbrev Input : Operation → Type
  | .catalog => Unit
  | .provision => ProvisionRequest
  | .deprovision => DeprovisionRequest
  | .getInstance => String
  | .instanceLastOperation => InstanceLastOperationRequest
  | .bind => BindRequest
  | .unbind => UnbindRequest
  | .getBinding => GetBindingRequest
  | .bindingLastOperation => BindingLastOperationRequest

/-- The method of an operation: creating is a PUT, deleting a DELETE, and
everything else a GET. -/
def method : Operation → Http.Method
  | .provision | .bind => .put
  | .deprovision | .unbind => .delete
  | _ => .get

/-- **The endpoint of an operation.** -/
def endpoint : (operation : Operation) → operation.Input → Endpoint
  | .catalog, _ => .catalog
  | .provision, input => .serviceInstance input.instanceId
  | .deprovision, input => .serviceInstance input.instanceId
  | .getInstance, instanceId => .serviceInstance instanceId
  | .instanceLastOperation, input => .instanceLastOperation input.instanceId
  | .bind, input => .serviceBinding input.instanceId input.bindingId
  | .unbind, input => .serviceBinding input.instanceId input.bindingId
  | .getBinding, input => .serviceBinding input.instanceId input.bindingId
  | .bindingLastOperation, input => .bindingLastOperation input.instanceId input.bindingId

/-- **The correlation fields** that go into the query of an operation, an open
one without a value. -/
def correlation : (operation : Operation) → operation.Input → List (String × Option String)
  | .deprovision, input =>
    [("service_id", some input.serviceId), ("plan_id", some input.planId)]
  | .instanceLastOperation, input =>
    [("service_id", input.serviceId), ("plan_id", input.planId), ("operation", input.operation)]
  | .unbind, input =>
    [("service_id", some input.serviceId), ("plan_id", some input.planId)]
  | .getBinding, input =>
    [("service_id", some input.serviceId), ("plan_id", some input.planId)]
  | .bindingLastOperation, input =>
    [("service_id", input.serviceId), ("plan_id", input.planId), ("operation", input.operation)]
  | .catalog, _ | .provision, _ | .getInstance, _ | .bind, _ => []

/-- **The body of an operation**, if it has one. -/
def body : (operation : Operation) → operation.Input → Option Json
  | .provision, input => some input.body
  | .bind, input => some input.body
  | .catalog, _ | .deprovision, _ | .getInstance, _ | .instanceLastOperation, _ | .unbind, _
  | .getBinding, _ | .bindingLastOperation, _ => none

/-- The query that consents to a later answer. -/
def consent (operation : Operation) : List (String × String) :=
  if operation.acceptsIncomplete then [("accepts_incomplete", "true")] else []

/-- **The query of an operation**: consent, then the correlation fields that
have a value which is not empty. -/
def query (operation : Operation) (input : operation.Input) : List (String × String) :=
  operation.consent ++ (operation.correlation input).filterMap fun (name, value) =>
    (value.filter (· ≠ "")).map fun value => (name, value)

end Operation

namespace Broker

/-- The headers of a request: who asks, the version of the interface, and the
type of the body if there is one. -/
def headers (broker : Broker) (hasBody : Bool) : List (String × String) :=
  [("Authorization", broker.authorization), ("X-Broker-Api-Version", broker.apiVersion)] ++
    if hasBody then [("Content-Type", "application/json")] else []

/-- **The request of an operation.** -/
def request (broker : Broker) (operation : Operation) (input : operation.Input) : Http.Request :=
  let body := operation.body input
  { method := operation.method
    path := broker.baseUrl ++ (operation.endpoint input).path
    query := operation.query input
    headers := broker.headers body.isSome
    body := body.map Json.text }

end Broker

end ServiceBroker
