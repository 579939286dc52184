import ServiceBroker.Json.Record

/-!
# The catalog

A broker offers services, each in one or more plans. Only the identifier and
the name of a service or plan have to be there. Whether a plan's instances can
be bound is the plan's own say where it has one, and the service's otherwise.
-/

namespace ServiceBroker

open Json (Record Field Fields)

/-- **A plan of a service.** -/
structure Plan where
  id : String
  name : String
  description : String := ""
  free : Option Bool := none
  /-- The plan's own word on bindability, if it has one. -/
  bindable : Option Bool := none
deriving DecidableEq, Repr

/-- **A service of a broker.** -/
structure Service where
  id : String
  name : String
  description : String := ""
  bindable : Bool := false
  tags : List String := []
  planUpdateable : Bool := false
  bindingsRetrievable : Bool := false
  plans : List Plan := []
deriving DecidableEq, Repr

/-- **What a broker offers.** -/
structure Catalog where
  services : List Service := []
deriving DecidableEq, Repr

namespace Plan

/-- The members of a plan. -/
def record : Record Plan where
  name := "Plan"
  fields :=
    .cons (.required "id" Json.stringReader) <|
    .cons (.required "name" Json.stringReader) <|
    .cons (.withDefault "description" Json.stringReader "") <|
    .cons (.optional "free" Json.boolReader) <|
    .cons (.optional "bindable" Json.boolReader) .nil
  build := fun (id, name, description, free, bindable, ()) =>
    { id, name, description, free, bindable }

/-- A plan as JSON. -/
def toJson (plan : Plan) : Json :=
  .object <|
    Json.member "id" (.string plan.id) ++
    Json.member "name" (.string plan.name) ++
    Json.member "description" (.string plan.description) ++
    Json.member? "free" (plan.free.map .bool) ++
    Json.member? "bindable" (plan.bindable.map .bool)

end Plan

namespace Service

/-- The members of a service. -/
def record : Record Service where
  name := "Service"
  fields :=
    .cons (.required "id" Json.stringReader) <|
    .cons (.required "name" Json.stringReader) <|
    .cons (.withDefault "description" Json.stringReader "") <|
    .cons (.withDefault "bindable" Json.boolReader false) <|
    .cons (.withDefault "tags" (Json.listReader Json.stringReader) []) <|
    .cons (.withDefault "plan_updateable" Json.boolReader false) <|
    .cons (.withDefault "bindings_retrievable" Json.boolReader false) <|
    .cons (.withDefault "plans" (Json.listReader Plan.record.read) []) .nil
  build := fun (id, name, description, bindable, tags, planUpdateable, bindingsRetrievable,
      plans, ()) =>
    { id, name, description, bindable, tags, planUpdateable, bindingsRetrievable, plans }

/-- A service as JSON. -/
def toJson (service : Service) : Json :=
  .object <|
    Json.member "id" (.string service.id) ++
    Json.member "name" (.string service.name) ++
    Json.member "description" (.string service.description) ++
    Json.member "bindable" (.bool service.bindable) ++
    Json.member "tags" (.array (service.tags.map .string)) ++
    Json.member "plan_updateable" (.bool service.planUpdateable) ++
    Json.member "bindings_retrievable" (.bool service.bindingsRetrievable) ++
    Json.member "plans" (.array (service.plans.map Plan.toJson))

/-- The first plan with an identifier. -/
def plan? (service : Service) (id : String) : Option Plan :=
  service.plans.find? (·.id == id)

/-- **Whether a plan of the service can be bound**: the plan's word goes before
the service's. -/
def planBindable (service : Service) (plan : Plan) : Bool := plan.bindable.getD service.bindable

end Service

namespace Catalog

/-- The members of a catalog. -/
def record : Record Catalog where
  name := "Catalog"
  fields := .cons (.withDefault "services" (Json.listReader Service.record.read) []) .nil
  build := fun (services, ()) => { services }

/-- A catalog as JSON. -/
def toJson (catalog : Catalog) : Json :=
  .object (Json.member "services" (.array (catalog.services.map Service.toJson)))

/-- The first service with an identifier. -/
def service? (catalog : Catalog) (id : String) : Option Service :=
  catalog.services.find? (·.id == id)

/-- The first service with a name. -/
def serviceNamed? (catalog : Catalog) (name : String) : Option Service :=
  catalog.services.find? (·.name == name)

end Catalog

end ServiceBroker
