import ServiceBroker.Endpoint
import ServiceBroker.Mock.Store

/-!
# What the mock broker does

An `Action` is a request that has been understood: the endpoint with its
identifiers, what was asked of it, and the part of the query and the body that
counts. `Action.perform` gives the answer and the store after it.

The random part of a new token is given from outside, so performing an action
is a function of the store. It is used only when an operation begins, which
is exactly when the answer is an acceptance.
-/

namespace ServiceBroker.Mock

/-- A query, of which only the last value of a name counts. -/
abbrev Query := List (String × String)

namespace Query

/-- **The value of a name.** -/
def get? (query : Query) (name : String) : Option String := query.reverse.lookup name

/-- Whether the client consents to a later answer. -/
def acceptsIncomplete (query : Query) : Bool := query.get? "accepts_incomplete" == some "true"

/-- Whether the service and the plan are named. -/
def hasCorrelation (query : Query) : Bool :=
  (query.get? "service_id").isSome && (query.get? "plan_id").isSome

end Query

/-- **A request that has been understood.** -/
inductive Action where
  | catalog
  | provision (instanceId : String) (query : Query) (body : ProvisionBody)
  | getInstance (instanceId : String)
  | deprovision (instanceId : String) (query : Query)
  | bind (instanceId bindingId : String) (query : Query) (body : BindBody)
  | getBinding (instanceId bindingId : String)
  | unbind (instanceId bindingId : String) (query : Query)
  /-- Poll the last operation on a target. -/
  | lastOperation (target : Target) (token : Option String)

/-- The service that the mock broker offers. -/
def serviceId : String := "mock-db-service"

/-- The smaller of its plans. -/
def smallPlanId : String := "mock-db-small"

/-- The larger of its plans. -/
def largePlanId : String := "mock-db-large"

/-- A plan of the catalog. -/
def planJson (id name description : String) (free : Bool) : Json :=
  .object [("id", .string id), ("name", .string name), ("description", .string description),
    ("free", .bool free)]

/-- **The catalog of the mock broker.** -/
def catalogJson : Json :=
  .object [("services", .array [.object
    [("id", .string serviceId),
      ("name", .string "mock-db"),
      ("description", .string "In-memory database for broker client tests"),
      ("bindable", .bool true),
      ("tags", .array [.string "mock", .string "database"]),
      ("bindings_retrievable", .bool true),
      ("plans", .array
        [planJson smallPlanId "small" "One node" true,
          planJson largePlanId "large" "Three nodes" false])]])]

/-- The dashboard of an instance. -/
def dashboardUrl (instanceId : String) : String := "http://mock-db/dashboard/" ++ instanceId

/-- **The credentials of a binding.** -/
def credentials (instanceId bindingId : String) : Json :=
  .object [("uri", .string ("mockdb://" ++ bindingId ++ "@mock-db/" ++ instanceId)),
    ("username", .string bindingId)]

namespace Answer

/-- The client has to consent to a later answer. -/
def asyncRequired : Answer :=
  error 422 "AsyncRequired"
    "This service plan requires client support for asynchronous service operations."

/-- A deletion has to name the service and the plan. -/
def uncorrelated : Answer := error 400 "BadRequest" "service_id and plan_id are required"

/-- There is no such instance. -/
def noInstance : Answer := error 404 "NotFound" "no such instance"

/-- There is no such binding, or none yet. -/
def noBinding : Answer := error 404 "NotFound" "no such binding"

/-- **An acceptance**, with the token unless it is to be left out. -/
def accepted (settings : Settings) (token : String) : Answer where
  status := 202
  body := .object (if settings.omitToken then [] else [("operation", .string token)])

/-- The credentials of a binding, with a status. -/
def credentials (status : Nat) (instanceId bindingId : String) : Answer where
  status := status
  body := .object [("credentials", Mock.credentials instanceId bindingId)]

end Answer

/-- **Accepting a change.** The token is the name of the change, a hyphen and
the random part. -/
def accept (settings : Settings) (random : String) (polls : Nat) (target : Target)
    (kind : ChangeKind) (store : Store) : Answer × Store :=
  let token := kind.name ++ "-" ++ random
  (.accepted settings token, store.begin target kind token polls)

/-- **Creating an instance.** The same body again is no conflict. -/
def provision (settings : Settings) (random instanceId : String) (query : Query)
    (body : ProvisionBody) (store : Store) : Answer × Store :=
  match store.instances.get? instanceId with
  | some existing =>
    (if existing.same body then .bare 200
      else .error 409 "Conflict" "instance exists with different attributes", store)
  | none =>
    let stored := { store with instances := store.instances.insert instanceId body }
    match settings.mode with
    | .sync =>
      ({ status := 201
         body := .object [("dashboard_url", .string (dashboardUrl instanceId))] }, stored)
    | .async polls =>
      if query.acceptsIncomplete then
        accept settings random polls (.serviceInstance instanceId) .provision stored
      else (.asyncRequired, store)

/-- **Reading an instance.** It is not there while it is being created. -/
def getInstance (instanceId : String) (store : Store) : Answer :=
  match store.instances.get? instanceId with
  | none => .noInstance
  | some body =>
    if store.inFlight (.serviceInstance instanceId) .provision then
      .error 404 "ConcurrencyError" "instance is being provisioned"
    else
      { status := 200
        body := .object
          [("service_id", .string body.serviceId), ("plan_id", .string body.planId),
            ("dashboard_url", .string (dashboardUrl instanceId)),
            ("parameters", body.parameters.getD .null)] }

/-- **Deleting an instance.** -/
def deprovision (settings : Settings) (random instanceId : String) (query : Query)
    (store : Store) : Answer × Store :=
  if !query.hasCorrelation then (.uncorrelated, store)
  else if !store.instances.contains instanceId then (.gone, store)
  else
    match settings.mode with
    | .sync => (.bare 200, store.removeInstance instanceId)
    | .async polls =>
      if query.acceptsIncomplete then
        accept settings random polls (.serviceInstance instanceId) .deprovision store
      else (.asyncRequired, store)

/-- **Creating a binding** of an instance that is there. The same body again is
no conflict. -/
def bind (settings : Settings) (random instanceId bindingId : String) (query : Query)
    (body : BindBody) (store : Store) : Answer × Store :=
  if !store.instances.contains instanceId then (.noInstance, store)
  else
    match store.bindings.get? (instanceId, bindingId) with
    | some existing =>
      (if existing.same body then .credentials 200 instanceId bindingId
        else .error 409 "Conflict" "binding exists with different attributes", store)
    | none =>
      let stored := { store with bindings := store.bindings.insert (instanceId, bindingId) body }
      match settings.mode with
      | .sync => (.credentials 201 instanceId bindingId, stored)
      | .async polls =>
        if query.acceptsIncomplete then
          accept settings random polls (.serviceBinding instanceId bindingId) .bind stored
        else (.asyncRequired, store)

/-- **Reading a binding.** It is not there while it is being created. -/
def getBinding (instanceId bindingId : String) (store : Store) : Answer :=
  let target := Target.serviceBinding instanceId bindingId
  if !store.holds target || store.inFlight target .bind then .noBinding
  else .credentials 200 instanceId bindingId

/-- **Deleting a binding.** -/
def unbind (settings : Settings) (random instanceId bindingId : String) (query : Query)
    (store : Store) : Answer × Store :=
  if !query.hasCorrelation then (.uncorrelated, store)
  else if !store.bindings.contains (instanceId, bindingId) then (.gone, store)
  else
    match settings.mode with
    | .sync => (.bare 200, store.removeBinding instanceId bindingId)
    | .async polls =>
      if query.acceptsIncomplete then
        accept settings random polls (.serviceBinding instanceId bindingId) .unbind store
      else (.asyncRequired, store)

/-- **Performing an action.** -/
def Action.perform (settings : Settings) (random : String) :
    Action → Store → Answer × Store
  | .catalog, store => ({ status := 200, body := catalogJson }, store)
  | .provision instanceId query body, store =>
    Mock.provision settings random instanceId query body store
  | .getInstance instanceId, store => (Mock.getInstance instanceId store, store)
  | .deprovision instanceId query, store => Mock.deprovision settings random instanceId query store
  | .bind instanceId bindingId query body, store =>
    Mock.bind settings random instanceId bindingId query body store
  | .getBinding instanceId bindingId, store => (Mock.getBinding instanceId bindingId store, store)
  | .unbind instanceId bindingId query, store =>
    Mock.unbind settings random instanceId bindingId query store
  | .lastOperation target token, store => store.poll target token

end ServiceBroker.Mock
