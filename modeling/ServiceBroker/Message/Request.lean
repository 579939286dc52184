import ServiceBroker.Json.Record

/-!
# What a client asks for

The caller chooses the identifiers of instances and bindings; they travel in
the path of a request and never in its body. Service and plan identify the
offer and go along with every request on an instance or binding. Parameters
and context are free-form objects that pass through unchanged.

A poll of the last operation may leave its correlation fields open; they are
then left out of the query.
-/

namespace ServiceBroker

open Json (Record)

/-- **Create an instance.** -/
structure ProvisionRequest where
  instanceId : String
  serviceId : String
  planId : String
  organizationGuid : String
  spaceGuid : String
  parameters : Option Members := none
  context : Option Members := none

/-- **Delete an instance.** -/
structure DeprovisionRequest where
  instanceId : String
  serviceId : String
  planId : String
deriving DecidableEq, Repr

/-- **What a binding is for**: an application or a route. -/
structure BindResource where
  appGuid : Option String := none
  route : Option String := none
deriving DecidableEq, Repr

/-- **Create a binding.** -/
structure BindRequest where
  instanceId : String
  bindingId : String
  serviceId : String
  planId : String
  appGuid : Option String := none
  bindResource : Option BindResource := none
  parameters : Option Members := none
  context : Option Members := none

/-- **Delete a binding.** -/
structure UnbindRequest where
  instanceId : String
  bindingId : String
  serviceId : String
  planId : String
deriving DecidableEq, Repr

/-- **Read a binding.** -/
structure GetBindingRequest where
  instanceId : String
  bindingId : String
  serviceId : String
  planId : String
deriving DecidableEq, Repr

/-- **Poll the last operation of an instance.** -/
structure InstanceLastOperationRequest where
  instanceId : String
  serviceId : Option String := none
  planId : Option String := none
  operation : Option String := none
deriving DecidableEq, Repr

/-- **Poll the last operation of a binding.** -/
structure BindingLastOperationRequest where
  instanceId : String
  bindingId : String
  serviceId : Option String := none
  planId : Option String := none
  operation : Option String := none
deriving DecidableEq, Repr

namespace ProvisionRequest

/-- The members of the request. -/
def record : Record ProvisionRequest where
  name := "ProvisionRequest"
  fields :=
    .cons (.required "instance_id" Json.stringReader) <|
    .cons (.required "service_id" Json.stringReader) <|
    .cons (.required "plan_id" Json.stringReader) <|
    .cons (.required "organization_guid" Json.stringReader) <|
    .cons (.required "space_guid" Json.stringReader) <|
    .cons (.optional "parameters" Json.objectReader) <|
    .cons (.optional "context" Json.objectReader) .nil
  build := fun (instanceId, serviceId, planId, organizationGuid, spaceGuid, parameters, context,
      ()) =>
    { instanceId, serviceId, planId, organizationGuid, spaceGuid, parameters, context }

/-- The request as JSON. -/
def toJson (request : ProvisionRequest) : Json :=
  .object <|
    Json.member "instance_id" (.string request.instanceId) ++
    Json.member "service_id" (.string request.serviceId) ++
    Json.member "plan_id" (.string request.planId) ++
    Json.member "organization_guid" (.string request.organizationGuid) ++
    Json.member "space_guid" (.string request.spaceGuid) ++
    Json.member? "parameters" (request.parameters.map .object) ++
    Json.member? "context" (request.context.map .object)

/-- **The body that is sent**: the request without the identifier, which is in
the path. -/
def body (request : ProvisionRequest) : Json :=
  .object <|
    Json.member "service_id" (.string request.serviceId) ++
    Json.member "plan_id" (.string request.planId) ++
    Json.member "organization_guid" (.string request.organizationGuid) ++
    Json.member "space_guid" (.string request.spaceGuid) ++
    Json.member? "parameters" (request.parameters.map .object) ++
    Json.member? "context" (request.context.map .object)

end ProvisionRequest

namespace DeprovisionRequest

/-- The members of the request. -/
def record : Record DeprovisionRequest where
  name := "DeprovisionRequest"
  fields :=
    .cons (.required "instance_id" Json.stringReader) <|
    .cons (.required "service_id" Json.stringReader) <|
    .cons (.required "plan_id" Json.stringReader) .nil
  build := fun (instanceId, serviceId, planId, ()) => { instanceId, serviceId, planId }

/-- The request as JSON. -/
def toJson (request : DeprovisionRequest) : Json :=
  .object <|
    Json.member "instance_id" (.string request.instanceId) ++
    Json.member "service_id" (.string request.serviceId) ++
    Json.member "plan_id" (.string request.planId)

end DeprovisionRequest

namespace BindResource

/-- The members of the resource. -/
def record : Record BindResource where
  name := "BindResource"
  fields :=
    .cons (.optional "app_guid" Json.stringReader) <|
    .cons (.optional "route" Json.stringReader) .nil
  build := fun (appGuid, route, ()) => { appGuid, route }

/-- The resource as JSON. -/
def toJson (resource : BindResource) : Json :=
  .object <|
    Json.member? "app_guid" (resource.appGuid.map .string) ++
    Json.member? "route" (resource.route.map .string)

end BindResource

namespace BindRequest

/-- The members of the request. -/
def record : Record BindRequest where
  name := "BindRequest"
  fields :=
    .cons (.required "instance_id" Json.stringReader) <|
    .cons (.required "binding_id" Json.stringReader) <|
    .cons (.required "service_id" Json.stringReader) <|
    .cons (.required "plan_id" Json.stringReader) <|
    .cons (.optional "app_guid" Json.stringReader) <|
    .cons (.optional "bind_resource" BindResource.record.read) <|
    .cons (.optional "parameters" Json.objectReader) <|
    .cons (.optional "context" Json.objectReader) .nil
  build := fun (instanceId, bindingId, serviceId, planId, appGuid, bindResource, parameters,
      context, ()) =>
    { instanceId, bindingId, serviceId, planId, appGuid, bindResource, parameters, context }

/-- The request as JSON. -/
def toJson (request : BindRequest) : Json :=
  .object <|
    Json.member "instance_id" (.string request.instanceId) ++
    Json.member "binding_id" (.string request.bindingId) ++
    Json.member "service_id" (.string request.serviceId) ++
    Json.member "plan_id" (.string request.planId) ++
    Json.member? "app_guid" (request.appGuid.map .string) ++
    Json.member? "bind_resource" (request.bindResource.map BindResource.toJson) ++
    Json.member? "parameters" (request.parameters.map .object) ++
    Json.member? "context" (request.context.map .object)

/-- **The body that is sent**: the request without the two identifiers, which
are in the path. -/
def body (request : BindRequest) : Json :=
  .object <|
    Json.member "service_id" (.string request.serviceId) ++
    Json.member "plan_id" (.string request.planId) ++
    Json.member? "app_guid" (request.appGuid.map .string) ++
    Json.member? "bind_resource" (request.bindResource.map BindResource.toJson) ++
    Json.member? "parameters" (request.parameters.map .object) ++
    Json.member? "context" (request.context.map .object)

end BindRequest

namespace UnbindRequest

/-- The members of the request. -/
def record : Record UnbindRequest where
  name := "UnbindRequest"
  fields :=
    .cons (.required "instance_id" Json.stringReader) <|
    .cons (.required "binding_id" Json.stringReader) <|
    .cons (.required "service_id" Json.stringReader) <|
    .cons (.required "plan_id" Json.stringReader) .nil
  build := fun (instanceId, bindingId, serviceId, planId, ()) =>
    { instanceId, bindingId, serviceId, planId }

/-- The request as JSON. -/
def toJson (request : UnbindRequest) : Json :=
  .object <|
    Json.member "instance_id" (.string request.instanceId) ++
    Json.member "binding_id" (.string request.bindingId) ++
    Json.member "service_id" (.string request.serviceId) ++
    Json.member "plan_id" (.string request.planId)

end UnbindRequest

namespace GetBindingRequest

/-- The members of the request. -/
def record : Record GetBindingRequest where
  name := "GetBindingRequest"
  fields :=
    .cons (.required "instance_id" Json.stringReader) <|
    .cons (.required "binding_id" Json.stringReader) <|
    .cons (.required "service_id" Json.stringReader) <|
    .cons (.required "plan_id" Json.stringReader) .nil
  build := fun (instanceId, bindingId, serviceId, planId, ()) =>
    { instanceId, bindingId, serviceId, planId }

/-- The request as JSON. -/
def toJson (request : GetBindingRequest) : Json :=
  .object <|
    Json.member "instance_id" (.string request.instanceId) ++
    Json.member "binding_id" (.string request.bindingId) ++
    Json.member "service_id" (.string request.serviceId) ++
    Json.member "plan_id" (.string request.planId)

end GetBindingRequest

namespace InstanceLastOperationRequest

/-- The members of the request. -/
def record : Record InstanceLastOperationRequest where
  name := "InstanceLastOperationRequest"
  fields :=
    .cons (.required "instance_id" Json.stringReader) <|
    .cons (.optional "service_id" Json.stringReader) <|
    .cons (.optional "plan_id" Json.stringReader) <|
    .cons (.optional "operation" Json.stringReader) .nil
  build := fun (instanceId, serviceId, planId, operation, ()) =>
    { instanceId, serviceId, planId, operation }

/-- The request as JSON; an open field is written as `null`. -/
def toJson (request : InstanceLastOperationRequest) : Json :=
  .object <|
    Json.member "instance_id" (.string request.instanceId) ++
    Json.member "service_id" (Json.ofOption request.serviceId) ++
    Json.member "plan_id" (Json.ofOption request.planId) ++
    Json.member "operation" (Json.ofOption request.operation)

end InstanceLastOperationRequest

namespace BindingLastOperationRequest

/-- The members of the request. -/
def record : Record BindingLastOperationRequest where
  name := "BindingLastOperationRequest"
  fields :=
    .cons (.required "instance_id" Json.stringReader) <|
    .cons (.required "binding_id" Json.stringReader) <|
    .cons (.optional "service_id" Json.stringReader) <|
    .cons (.optional "plan_id" Json.stringReader) <|
    .cons (.optional "operation" Json.stringReader) .nil
  build := fun (instanceId, bindingId, serviceId, planId, operation, ()) =>
    { instanceId, bindingId, serviceId, planId, operation }

/-- The request as JSON; an open field is written as `null`. -/
def toJson (request : BindingLastOperationRequest) : Json :=
  .object <|
    Json.member "instance_id" (.string request.instanceId) ++
    Json.member "binding_id" (.string request.bindingId) ++
    Json.member "service_id" (Json.ofOption request.serviceId) ++
    Json.member "plan_id" (Json.ofOption request.planId) ++
    Json.member "operation" (Json.ofOption request.operation)

end BindingLastOperationRequest

end ServiceBroker
