import ServiceBroker.Json.Record

/-!
# The bodies that the mock broker stores

What is stored of an instance or binding is the body that created it. A later
request for the same identifier is a repetition if its body is the same and a
conflict if it is not, and the same means equality as JSON values: key order
does not count, and a `null` is an absent member.
-/

namespace ServiceBroker.Mock

open Json (Record)

/-- **The body of a provision.** -/
structure ProvisionBody where
  serviceId : String
  planId : String
  organizationGuid : Option String
  spaceGuid : Option String
  parameters : Option Json
  context : Option Json

/-- **The body of a bind.** -/
structure BindBody where
  serviceId : String
  planId : String
  appGuid : Option String
  bindResource : Option Json
  parameters : Option Json
  context : Option Json

namespace ProvisionBody

/-- The members of the body. -/
def record : Record ProvisionBody where
  name := "ProvisionBody"
  fields :=
    .cons (.required "service_id" Json.stringReader) <|
    .cons (.required "plan_id" Json.stringReader) <|
    .cons (.optional "organization_guid" Json.stringReader) <|
    .cons (.optional "space_guid" Json.stringReader) <|
    .cons (.optional "parameters" Json.value) <|
    .cons (.optional "context" Json.value) .nil
  build := fun (serviceId, planId, organizationGuid, spaceGuid, parameters, context, ()) =>
    { serviceId, planId, organizationGuid, spaceGuid, parameters, context }

/-- **Equality of bodies.** -/
def same (a b : ProvisionBody) : Bool :=
  a.serviceId == b.serviceId && a.planId == b.planId
    && a.organizationGuid == b.organizationGuid && a.spaceGuid == b.spaceGuid
    && Json.sameOption a.parameters b.parameters && Json.sameOption a.context b.context

end ProvisionBody

namespace BindBody

/-- The members of the body. -/
def record : Record BindBody where
  name := "BindBody"
  fields :=
    .cons (.required "service_id" Json.stringReader) <|
    .cons (.required "plan_id" Json.stringReader) <|
    .cons (.optional "app_guid" Json.stringReader) <|
    .cons (.optional "bind_resource" Json.value) <|
    .cons (.optional "parameters" Json.value) <|
    .cons (.optional "context" Json.value) .nil
  build := fun (serviceId, planId, appGuid, bindResource, parameters, context, ()) =>
    { serviceId, planId, appGuid, bindResource, parameters, context }

/-- **Equality of bodies.** -/
def same (a b : BindBody) : Bool :=
  a.serviceId == b.serviceId && a.planId == b.planId && a.appGuid == b.appGuid
    && Json.sameOption a.bindResource b.bindResource
    && Json.sameOption a.parameters b.parameters && Json.sameOption a.context b.context

end BindBody

end ServiceBroker.Mock
