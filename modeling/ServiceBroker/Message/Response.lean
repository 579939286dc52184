import ServiceBroker.Json.Record

/-!
# What a broker answers

The bodies of successful answers, and the two small bodies that come with
other ones: the token of an accepted operation and the broker's error object.
Every member may be missing except the state of a last operation, and each
body but that one has an empty form that a blank body stands for.
-/

namespace ServiceBroker

open Json (Record)

/-- **An answer that may come now or later.** A broker that accepts a change
without having made it may hand out a token for asking after it. -/
inductive Outcome (α : Type) where
  /-- Done, with the result. -/
  | complete (result : α)
  /-- Accepted, perhaps with a token. -/
  | accepted (token : Option String)
deriving DecidableEq, Repr

/-- The same outcome with another result. -/
def Outcome.map {α β : Type} (f : α → β) : Outcome α → Outcome β
  | .complete result => .complete (f result)
  | .accepted token => .accepted token

/-- **The result of a provision.** -/
structure Provisioned where
  dashboardUrl : Option String := none
deriving DecidableEq, Repr

/-- **A binding**, with the credentials it grants. -/
structure Binding where
  credentials : Members := []
  syslogDrainUrl : Option String := none
  routeServiceUrl : Option String := none

/-- **What a broker tells about an instance.** -/
structure InstanceDetails where
  serviceId : Option String := none
  planId : Option String := none
  dashboardUrl : Option String := none
  parameters : Option Members := none

/-- **The state of the last operation.** -/
inductive LastOperationState where
  | inProgress
  | succeeded
  | failed
deriving DecidableEq, Repr

/-- **The answer to a poll.** -/
structure LastOperation where
  state : LastOperationState
  description : Option String := none
deriving DecidableEq, Repr

/-- **The body of an accepted change.** -/
structure AcceptedBody where
  operation : Option String := none
deriving DecidableEq, Repr

/-- **A broker's error object.** -/
structure ErrorBody where
  code : Option String
  description : Option String
deriving DecidableEq, Repr

namespace Provisioned

/-- The members of the result. -/
def record : Record Provisioned where
  name := "Provisioned"
  fields := .cons (.optional "dashboard_url" Json.stringReader) .nil
  build := fun (dashboardUrl, ()) => { dashboardUrl }

/-- The result as JSON. -/
def toJson (result : Provisioned) : Json :=
  .object (Json.member? "dashboard_url" (result.dashboardUrl.map .string))

end Provisioned

namespace Binding

/-- The members of a binding. -/
def record : Record Binding where
  name := "Binding"
  fields :=
    .cons (.withDefault "credentials" Json.objectReader []) <|
    .cons (.optional "syslog_drain_url" Json.stringReader) <|
    .cons (.optional "route_service_url" Json.stringReader) .nil
  build := fun (credentials, syslogDrainUrl, routeServiceUrl, ()) =>
    { credentials, syslogDrainUrl, routeServiceUrl }

/-- A binding as JSON; the credentials are written even when empty. -/
def toJson (binding : Binding) : Json :=
  .object <|
    Json.member "credentials" (.object binding.credentials) ++
    Json.member? "syslog_drain_url" (binding.syslogDrainUrl.map .string) ++
    Json.member? "route_service_url" (binding.routeServiceUrl.map .string)

end Binding

namespace InstanceDetails

/-- The members of the details. -/
def record : Record InstanceDetails where
  name := "InstanceDetails"
  fields :=
    .cons (.optional "service_id" Json.stringReader) <|
    .cons (.optional "plan_id" Json.stringReader) <|
    .cons (.optional "dashboard_url" Json.stringReader) <|
    .cons (.optional "parameters" Json.objectReader) .nil
  build := fun (serviceId, planId, dashboardUrl, parameters, ()) =>
    { serviceId, planId, dashboardUrl, parameters }

/-- The details as JSON. -/
def toJson (details : InstanceDetails) : Json :=
  .object <|
    Json.member? "service_id" (details.serviceId.map .string) ++
    Json.member? "plan_id" (details.planId.map .string) ++
    Json.member? "dashboard_url" (details.dashboardUrl.map .string) ++
    Json.member? "parameters" (details.parameters.map .object)

end InstanceDetails

namespace LastOperationState

/-- **The spellings of the states.** An operation in progress has two, of which
the first is written. -/
def names : List (String × LastOperationState) :=
  [("in progress", .inProgress), ("in-progress", .inProgress), ("succeeded", .succeeded),
    ("failed", .failed)]

/-- How a state is read. -/
def reader : Json.Reader LastOperationState := Json.variantReader names

/-- The spelling that is written. -/
def name : LastOperationState → String
  | .inProgress => "in progress"
  | .succeeded => "succeeded"
  | .failed => "failed"

/-- A state as JSON. -/
def toJson (state : LastOperationState) : Json := .string state.name

/-- **A state that ends an operation.** -/
def isTerminal (state : LastOperationState) : Bool := state != .inProgress

end LastOperationState

namespace LastOperation

/-- The members of the answer. -/
def record : Record LastOperation where
  name := "LastOperation"
  fields :=
    .cons (.required "state" LastOperationState.reader) <|
    .cons (.optional "description" Json.stringReader) .nil
  build := fun (state, description, ()) => { state, description }

/-- The answer as JSON. -/
def toJson (last : LastOperation) : Json :=
  .object <|
    Json.member "state" last.state.toJson ++
    Json.member? "description" (last.description.map .string)

end LastOperation

namespace AcceptedBody

/-- The members of the body. -/
def record : Record AcceptedBody where
  name := "AcceptedBody"
  fields := .cons (.optional "operation" Json.stringReader) .nil
  build := fun (operation, ()) => { operation }

end AcceptedBody

namespace ErrorBody

/-- The members of an error object. As an array it has to hold both. -/
def record : Record ErrorBody where
  name := "ErrorBody"
  fields :=
    .cons (.nullable "error" Json.stringReader) <|
    .cons (.nullable "description" Json.stringReader) .nil
  build := fun (code, description, ()) => { code, description }

end ErrorBody

end ServiceBroker
