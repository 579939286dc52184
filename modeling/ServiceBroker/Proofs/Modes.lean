import ServiceBroker.Proofs.Bodies
import ServiceBroker.Proofs.Transit

/-!
# Two ways of making a change

A mock broker makes a change at once, or accepts it and makes it later. This module
compares the two, on a store in which nothing is in flight. If there is anything to
be said against a change, or if there is nothing to do, both give the same answer
and leave the store as it is. Otherwise there is one store in which the operation
can begin, and the broker that makes the change at once goes straight to the store
in which the same operation has finished (`Mock.perform_asks`).

An operation in flight is asked after, and `Mock.Store.poll_of_succ` and
`Mock.Store.poll_of_zero` say what the store does with such a question: it counts
down, and at the end it finishes what was begun.
-/

namespace ServiceBroker

/-! ## What a change asks for -/

namespace Change

/-- The endpoint on which a change is asked for. -/
def endpoint : Change → Endpoint
  | .provision request => .serviceInstance request.instanceId
  | .deprovision request => .serviceInstance request.instanceId
  | .bind request => .serviceBinding request.instanceId request.bindingId
  | .unbind request => .serviceBinding request.instanceId request.bindingId

/-- What a change works on. -/
def target : Change → Mock.Target
  | .provision request => .serviceInstance request.instanceId
  | .deprovision request => .serviceInstance request.instanceId
  | .bind request => .serviceBinding request.instanceId request.bindingId
  | .unbind request => .serviceBinding request.instanceId request.bindingId

/-- The kind of a change. -/
def kind : Change → ChangeKind
  | .provision _ => .provision
  | .deprovision _ => .deprovision
  | .bind _ => .bind
  | .unbind _ => .unbind

theorem path_request (broker : Broker) (change : Change) :
    (change.request broker).path = broker.baseUrl ++ change.endpoint.path := by
  cases change <;> rfl

theorem exists_headers_request (broker : Broker) (change : Change) :
    ∃ hasBody, (change.request broker).headers = broker.headers hasBody := by
  cases change <;> exact ⟨_, rfl⟩

/-- **The action that a change asks for**: it is on the same identifiers, and the query
consents to a later answer. -/
inductive Asks : Change → Mock.Action → Prop where
  /-- An instance is to be created. -/
  | provision {request : ProvisionRequest} {query : Mock.Query} (body : Mock.ProvisionBody)
      (consents : query.acceptsIncomplete = true) :
      Asks (.provision request) (.provision request.instanceId query body)
  /-- An instance is to be deleted. -/
  | deprovision {request : DeprovisionRequest} {query : Mock.Query}
      (consents : query.acceptsIncomplete = true) :
      Asks (.deprovision request) (.deprovision request.instanceId query)
  /-- A binding is to be created. -/
  | bind {request : BindRequest} {query : Mock.Query} (body : Mock.BindBody)
      (consents : query.acceptsIncomplete = true) :
      Asks (.bind request) (.bind request.instanceId request.bindingId query body)
  /-- A binding is to be deleted. -/
  | unbind {request : UnbindRequest} {query : Mock.Query}
      (consents : query.acceptsIncomplete = true) :
      Asks (.unbind request) (.unbind request.instanceId request.bindingId query)

end Change

namespace Mock

namespace Query

/-- A correlation field does not hide another name. -/
theorem get?_append_correlate_of_ne (query : Query) {name other : String} (ne : other ≠ name)
    (value : Option String) :
    get? (query ++ correlate name value) other = query.get? other := by
  have differs : (other == name) = false := beq_false_of_ne ne
  unfold get? correlate
  cases value with
  | none => rw [List.append_nil]
  | some value =>
    dsimp only
    split
    · rw [List.append_nil]
    · rw [List.reverse_append, List.reverse_singleton, List.singleton_append, List.lookup_cons,
        differs]

theorem get?_append_correlate (query : Query) (name : String) {value : String}
    (nonempty : value ≠ "") : get? (query ++ correlate name (some value)) name = some value := by
  unfold get? correlate
  dsimp only
  rw [if_neg nonempty, List.reverse_append, List.reverse_singleton, List.singleton_append,
    List.lookup_cons, beq_self_eq_true]

end Query

/-- **Every change consents to a later answer.** -/
theorem acceptsIncomplete_request (broker : Broker) (change : Change) :
    Query.acceptsIncomplete (change.request broker).query = true := by
  have consent (serviceId planId : Option String) :
      Query.acceptsIncomplete ([("accepts_incomplete", "true")]
        ++ correlate "service_id" serviceId ++ correlate "plan_id" planId) = true := by
    unfold Query.acceptsIncomplete
    rw [Query.get?_append_correlate_of_ne _ (by decide),
      Query.get?_append_correlate_of_ne _ (by decide)]
    rfl
  cases change with
  | provision request => rfl
  | bind request => rfl
  | deprovision request =>
    show Query.acceptsIncomplete (Operation.query .deprovision request) = true
    unfold Operation.query
    rw [filterMap_correlate]
    simp only [Operation.correlation, List.flatMap_cons, List.flatMap_nil, List.append_nil]
    rw [← List.append_assoc]
    exact consent _ _
  | unbind request =>
    show Query.acceptsIncomplete (Operation.query .unbind request) = true
    unfold Operation.query
    rw [filterMap_correlate]
    simp only [Operation.correlation, List.flatMap_cons, List.flatMap_nil, List.append_nil]
    rw [← List.append_assoc]
    exact consent _ _

/-- **A change that is let in is refused for its body or understood.** -/
theorem actionAt_change {change : Change} (plain : change.endpoint.IsPlain) (broker : Broker) :
    (∃ refusal, actionAt change.endpoint (change.request broker).query
        (change.endpoint.arrival (change.request broker)) = .error refusal) ∨
    ∃ action, actionAt change.endpoint (change.request broker).query
        (change.endpoint.arrival (change.request broker)) = .ok action ∧ change.Asks action := by
  have consents := acceptsIncomplete_request broker change
  set query := (change.request broker).query
  set arrival := change.endpoint.arrival (change.request broker)
  cases change with
  | provision request =>
    rw [Change.endpoint, actionAt_provision (plain _ (.head _)) rfl]
    cases bodyAs ProvisionBody.record arrival with
    | error refusal => exact .inl ⟨refusal, rfl⟩
    | ok body => exact .inr ⟨_, rfl, .provision body consents⟩
  | bind request =>
    rw [Change.endpoint, actionAt_bind (plain _ (.head _)) (plain _ (.tail _ (.head _))) rfl]
    cases bodyAs BindBody.record arrival with
    | error refusal => exact .inl ⟨refusal, rfl⟩
    | ok body => exact .inr ⟨_, rfl, .bind body consents⟩
  | deprovision request =>
    have reads : actionAt (.serviceInstance request.instanceId) query arrival
        = (instanceIdOf request.instanceId).bind fun i => .ok (.deprovision i query) := rfl
    refine .inr ⟨_, ?_, .deprovision consents⟩
    rw [Change.endpoint, reads, instanceIdOf_eq (plain _ (.head _))]
    rfl
  | unbind request =>
    have reads : actionAt (.serviceBinding request.instanceId request.bindingId) query arrival
        = (instanceIdOf request.instanceId).bind fun i =>
            (bindingIdOf request.bindingId).bind fun b => .ok (.unbind i b query) := rfl
    refine .inr ⟨_, ?_, .unbind consents⟩
    rw [Change.endpoint, reads, instanceIdOf_eq (plain _ (.head _)),
      bindingIdOf_eq (plain _ (.tail _ (.head _)))]
    rfl

/-! ## Operations in flight -/

namespace Store

/-- **Nothing is in flight.** -/
def IsIdle (store : Store) : Prop := store.operations = {}

theorem IsIdle.finish {store : Store} (idle : store.IsIdle) (target : Target)
    (kind : ChangeKind) : (store.finish target kind).IsIdle := by
  obtain ⟨instances, bindings, operations⟩ := store
  obtain rfl : operations = {} := idle
  cases kind <;> cases target <;> rfl

theorem finish_begin (store : Store) (target : Target) (kind : ChangeKind) (token : String)
    (polls : Nat) : (store.begin target kind token polls).finish target kind
      = store.finish target kind := by
  unfold finish begin
  simp only [Table.erase_insert]

theorem inFlight_of_free {store : Store} {target : Target}
    (free : store.operations.get? target = none) (kind : ChangeKind) :
    store.inFlight target kind = false := by
  unfold inFlight
  rw [free]

theorem IsIdle.get?_eq {store : Store} (idle : store.IsIdle) (target : Target) :
    store.operations.get? target = none :=
  congrArg (Table.get? · target) idle

section Poll

variable {store : Store} {target : Target} {pending : Pending} {asked : Option String}

/-- **Asking after a target that is free** changes nothing. -/
theorem poll_of_free (free : store.operations.get? target = none) (token : Option String) :
    store.poll target token = (if store.holds target then .succeeded else .gone, store) := by
  unfold poll
  rw [free]

/-- **Asking after an operation that is still in progress** counts it down. The token is
the right one if it is given at all. -/
theorem poll_of_succ (busy : store.operations.get? target = some pending)
    (right : asked = none ∨ asked = some pending.token) {remaining : Nat}
    (remains : pending.remaining = remaining + 1) :
    store.poll target asked
      = (.inProgress pending.kind, store.begin target pending.kind pending.token remaining) := by
  unfold poll
  rw [busy]
  dsimp only
  rw [if_neg (by obtain rfl | rfl := right <;> simp), remains]
  rfl

/-- **Asking after an operation that has run its course** finishes it. -/
theorem poll_of_zero (busy : store.operations.get? target = some pending)
    (right : asked = none ∨ asked = some pending.token) (done : pending.remaining = 0) :
    store.poll target asked = (.succeeded, store.finish target pending.kind) := by
  unfold poll
  rw [busy]
  dsimp only
  rw [if_neg (by obtain rfl | rfl := right <;> simp), done]

theorem IsIdle.poll_eq (idle : store.IsIdle) (target : Target) (token : Option String) :
    store.poll target token = (if store.holds target then .succeeded else .gone, store) :=
  poll_of_free (idle.get?_eq target) token

end Poll

section Begun

variable (store : Store) (target : Target) (kind : ChangeKind) (token : String)
  {asked : Option String}

/-- An operation that has begun counts down to one that has begun with less. -/
theorem poll_begin_succ (right : asked = none ∨ asked = some token) (remaining : Nat) :
    (store.begin target kind token (remaining + 1)).poll target asked
      = (.inProgress kind, store.begin target kind token remaining) := by
  have busy : (store.begin target kind token (remaining + 1)).operations.get? target
      = some { kind, token, remaining := remaining + 1 } :=
    (Table.get?_insert ..).trans (if_pos rfl)
  rw [poll_of_succ busy right rfl]
  unfold begin
  rw [Table.insert_insert]

/-- An operation that has begun finishes as if it had never been in flight. -/
theorem poll_begin_zero (right : asked = none ∨ asked = some token) :
    (store.begin target kind token 0).poll target asked
      = (.succeeded, store.finish target kind) := by
  have busy : (store.begin target kind token 0).operations.get? target
      = some { kind, token, remaining := 0 } :=
    (Table.get?_insert ..).trans (if_pos rfl)
  rw [poll_of_zero busy right rfl, finish_begin]

end Begun

end Store

/-! ## The two modes -/

/-- The settings of a broker that makes changes at once. -/
def Settings.sync (settings : Settings) : Settings := { settings with mode := .sync }

/-- The settings of a broker that accepts changes first. -/
def Settings.async (settings : Settings) (polls : Nat) : Settings :=
  { settings with mode := .async polls }

end Mock

namespace Change

/-- **The answer to a change that is made at once.** -/
def made : Change → Mock.Answer
  | .provision request =>
    { status := 201
      body := .object [("dashboard_url", .string (Mock.dashboardUrl request.instanceId))] }
  | .deprovision _ => .bare 200
  | .bind request => .credentials 201 request.instanceId request.bindingId
  | .unbind _ => .bare 200

/-- The binding that a change creates, as the mock broker grants it. -/
def granted? : Change → Option Binding
  | .bind request => some (Mock.grantedBinding request.instanceId request.bindingId)
  | .provision _ | .deprovision _ | .unbind _ => none

/-- **The client learns that the change is complete**, and the binding if one was
created. -/
theorem outcome_made (change : Change) :
    change.outcome (.ok change.made.toResponse) = .ok (.complete change.granted?) := by
  cases change with
  | provision request =>
    have sorted (body : Json) :
        classify .provision (Mock.Answer.toResponse { status := 201, body })
          = .ok (.complete ()) := rfl
    unfold outcome Operation.read Operation.parse creation made
    dsimp only
    -- The answer is sorted by its status before the body is looked at.
    rw [sorted]
    dsimp only [Mock.Answer.toResponse]
    rw [readBodyOr_text {} .provision (Mock.decode_dashboard _)]
    rfl
  | bind request =>
    have sorted : classify .bind
        (Mock.Answer.credentials 201 request.instanceId request.bindingId).toResponse
          = .ok (.complete ()) := rfl
    unfold outcome Operation.read Operation.parse creation made
    dsimp only
    rw [sorted]
    dsimp only [Mock.Answer.toResponse, Mock.Answer.credentials]
    rw [readBodyOr_text {} .bind (Mock.decode_credentials 201 _ _)]
    rfl
  | deprovision request => rfl
  | unbind request => rfl

end Change

namespace Mock

/-- **A change in both modes**, on one store. -/
inductive InBothModes (settings : Settings) (change : Change) (action : Action) (store : Store) :
    Prop where
  /-- Both brokers give the same answer, which is no acceptance, and do nothing. -/
  | alike (answer : Answer) (notAccepted : answer.status ≠ 202)
      (performs : ∀ mode random,
        action.perform { settings with mode } random store = (answer, store))
  /-- There is a store in which the operation can begin: one broker accepts it there,
  and the other one's store is that in which it has finished. -/
  | begins (begun : Store) (idle : begun.IsIdle) (holds : begun.holds change.target = true)
      (sync : ∀ random, action.perform settings.sync random store
        = (change.made, begun.finish change.target change.kind))
      (async : ∀ polls random, action.perform (settings.async polls) random store
        = accept (settings.async polls) random polls change.target change.kind begun)

section Modes

variable (settings : Settings) {query : Query} {store : Store}

/-- The creation of an instance: it begins unless the instance is there. -/
theorem provision_inBothModes (request : ProvisionRequest) (body : ProvisionBody)
    (consents : query.acceptsIncomplete = true) (idle : store.IsIdle) :
    InBothModes settings (.provision request) (.provision request.instanceId query body)
      store := by
  obtain ⟨instances, bindings, operations⟩ := store
  obtain rfl : operations = {} := idle
  cases exists? : instances.get? request.instanceId with
  | some existing =>
    refine .alike (if existing.same body then .bare 200
      else .error 409 "Conflict" "instance exists with different attributes") ?_ ?_
    · split <;> exact nofun
    · intro mode random
      show Mock.provision _ _ _ _ _ _ = _
      unfold Mock.provision
      rw [exists?]
  | none =>
    -- The instance is stored when its creation begins, so that finishing adds nothing.
    refine .begins ⟨instances.insert request.instanceId body, bindings, {}⟩ rfl ?_ ?_ ?_
    · show ((instances.insert request.instanceId body).get? request.instanceId).isSome = true
      rw [Table.get?_insert, if_pos rfl]
      rfl
    · intro random
      show Mock.provision settings.sync random _ query _ _ = _
      unfold Mock.provision
      rw [exists?]
      rfl
    · intro polls random
      show Mock.provision (settings.async polls) random _ _ _ _ = _
      unfold Mock.provision
      rw [exists?, consents]
      rfl

/-- The deletion of an instance: it begins if the request names the service and the plan
and the instance is there. -/
theorem deprovision_inBothModes (request : DeprovisionRequest)
    (consents : query.acceptsIncomplete = true) (idle : store.IsIdle) :
    InBothModes settings (.deprovision request) (.deprovision request.instanceId query)
      store := by
  obtain ⟨instances, bindings, operations⟩ := store
  obtain rfl : operations = {} := idle
  cases correlated : query.hasCorrelation with
  | false =>
    refine .alike .uncorrelated nofun fun mode random => ?_
    show Mock.deprovision _ _ _ _ _ = _
    unfold Mock.deprovision
    rw [correlated]
    rfl
  | true =>
    cases exists? : instances.contains request.instanceId with
    | false =>
      refine .alike .gone nofun fun mode random => ?_
      show Mock.deprovision _ _ _ _ _ = _
      unfold Mock.deprovision
      rw [correlated, exists?]
      rfl
    | true =>
      -- The instance is removed when its deletion has finished, and its bindings with it.
      refine .begins ⟨instances, bindings, {}⟩ rfl exists? ?_ ?_
      · intro random
        show Mock.deprovision settings.sync random _ _ _ = _
        unfold Mock.deprovision
        rw [correlated, exists?]
        rfl
      · intro polls random
        show Mock.deprovision (settings.async polls) random _ _ _ = _
        unfold Mock.deprovision
        rw [correlated, exists?, consents]
        rfl

/-- The creation of a binding: it begins if the instance is there and the binding is
not. -/
theorem bind_inBothModes (request : BindRequest) (body : BindBody)
    (consents : query.acceptsIncomplete = true) (idle : store.IsIdle) :
    InBothModes settings (.bind request)
      (.bind request.instanceId request.bindingId query body) store := by
  obtain ⟨instances, bindings, operations⟩ := store
  obtain rfl : operations = {} := idle
  cases instance? : instances.contains request.instanceId with
  | false =>
    refine .alike .noInstance nofun fun mode random => ?_
    show Mock.bind _ _ _ _ _ _ _ = _
    unfold Mock.bind
    rw [instance?]
    rfl
  | true =>
    cases exists? : bindings.get? (request.instanceId, request.bindingId) with
    | some existing =>
      refine .alike (if existing.same body then
          .credentials 200 request.instanceId request.bindingId
        else .error 409 "Conflict" "binding exists with different attributes") ?_ ?_
      · split <;> exact nofun
      · intro mode random
        show Mock.bind _ _ _ _ _ _ _ = _
        unfold Mock.bind
        rw [instance?, exists?]
        rfl
    | none =>
      refine .begins ⟨instances, bindings.insert (request.instanceId, request.bindingId) body, {}⟩
        rfl ?_ ?_ ?_
      · show ((bindings.insert (request.instanceId, request.bindingId) body).get?
          (request.instanceId, request.bindingId)).isSome = true
        rw [Table.get?_insert, if_pos rfl]
        rfl
      · intro random
        show Mock.bind settings.sync random _ _ query _ _ = _
        unfold Mock.bind
        rw [instance?, exists?]
        rfl
      · intro polls random
        show Mock.bind (settings.async polls) random _ _ _ _ _ = _
        unfold Mock.bind
        rw [instance?, exists?, consents]
        rfl

/-- The deletion of a binding: it begins if the request names the service and the plan
and the binding is there. -/
theorem unbind_inBothModes (request : UnbindRequest)
    (consents : query.acceptsIncomplete = true) (idle : store.IsIdle) :
    InBothModes settings (.unbind request)
      (.unbind request.instanceId request.bindingId query) store := by
  obtain ⟨instances, bindings, operations⟩ := store
  obtain rfl : operations = {} := idle
  cases correlated : query.hasCorrelation with
  | false =>
    refine .alike .uncorrelated nofun fun mode random => ?_
    show Mock.unbind _ _ _ _ _ _ = _
    unfold Mock.unbind
    rw [correlated]
    rfl
  | true =>
    cases exists? : bindings.contains (request.instanceId, request.bindingId) with
    | false =>
      refine .alike .gone nofun fun mode random => ?_
      show Mock.unbind _ _ _ _ _ _ = _
      unfold Mock.unbind
      rw [correlated, exists?]
      rfl
    | true =>
      refine .begins ⟨instances, bindings, {}⟩ rfl exists? ?_ ?_
      · intro random
        show Mock.unbind settings.sync random _ _ _ _ = _
        unfold Mock.unbind
        rw [correlated, exists?]
        rfl
      · intro polls random
        show Mock.unbind (settings.async polls) random _ _ _ _ = _
        unfold Mock.unbind
        rw [correlated, exists?, consents]
        rfl

/-- **Every change goes one of two ways**, on a store in which nothing is in flight. -/
theorem perform_asks {change : Change} {action : Action} (asks : change.Asks action)
    (idle : store.IsIdle) : InBothModes settings change action store := by
  cases asks with
  | provision body consents => exact provision_inBothModes settings _ body consents idle
  | deprovision consents => exact deprovision_inBothModes settings _ consents idle
  | bind body consents => exact bind_inBothModes settings _ body consents idle
  | unbind consents => exact unbind_inBothModes settings _ consents idle

end Modes

/-! ## Serving a change in both modes -/

/-- **A change that arrives is served in one of two ways.** Both brokers give the same
response, which is no acceptance, and do nothing; or the client is let in, and there
is a store in which the operation can begin. -/
theorem serve_change (settings : Settings) (client : Broker) {change : Change}
    (plain : change.endpoint.IsPlain) {store : Store} (idle : store.IsIdle) :
    let arrival := change.endpoint.arrival (change.request client)
    (∃ response : Http.Response, response.status ≠ 202 ∧ ∀ mode random,
      serve { settings with mode } random arrival store = (response, store)) ∨
    settings.Admits client ∧ ∃ begun : Store, begun.IsIdle ∧ begun.holds change.target = true ∧
      (∀ random, serve settings.sync random arrival store
        = (change.made.toResponse, begun.finish change.target change.kind)) ∧
      ∀ polls random, serve (settings.async polls) random arrival store
        = ((Answer.accepted settings (change.kind.name ++ "-" ++ random)).toResponse,
            begun.begin change.target change.kind (change.kind.name ++ "-" ++ random) polls) := by
  intro arrival
  have notHead : arrival.method ≠ "HEAD" := name_ne_head (change.request client).method
  obtain ⟨hasBody, headers⟩ := change.exists_headers_request client
  -- Whether the change is understood does not depend on the mode, so it is settled first.
  have understands := understand_arrival settings headers plain
  by_cases admits : settings.Admits client
  · rw [if_pos admits] at understands
    obtain ⟨refusal, refused⟩ | ⟨action, understood, asks⟩ := actionAt_change plain client
    · rw [refused] at understands
      exact .inl ⟨_, refusal.status_ne, fun mode random =>
        serve_of_refused random store notHead understands⟩
    · rw [understood] at understands
      have serves (mode : Mode) (random : String) :
          serve { settings with mode } random arrival store
            = ((action.perform { settings with mode } random store).1.toResponse,
                (action.perform { settings with mode } random store).2) :=
        serve_of_understood random store notHead understands
      cases perform_asks settings asks idle with
      | alike answer notAccepted performs =>
        refine .inl ⟨answer.toResponse, notAccepted, fun mode random => ?_⟩
        rw [serves, performs]
      | begins begun idle holds sync async =>
        refine .inr ⟨admits, begun, idle, holds, fun random => ?_, fun polls random => ?_⟩
        · have served : serve settings.sync random arrival store
              = ((action.perform settings.sync random store).1.toResponse,
                  (action.perform settings.sync random store).2) := serves .sync random
          rw [served, sync]
        · have served : serve (settings.async polls) random arrival store
              = ((action.perform (settings.async polls) random store).1.toResponse,
                  (action.perform (settings.async polls) random store).2) :=
            serves (.async polls) random
          rw [served, async]
          rfl
  · rw [if_neg admits] at understands
    exact .inl ⟨_, Refusal.status_ne .badCredentials, fun mode random =>
      serve_of_refused random store notHead understands⟩

/-! ## Questions -/

/-- **The actions that change nothing** where nothing is in flight. -/
inductive Action.IsQuestion : Action → Prop where
  | catalog : IsQuestion .catalog
  | getInstance (instanceId : String) : IsQuestion (.getInstance instanceId)
  | getBinding (instanceId bindingId : String) : IsQuestion (.getBinding instanceId bindingId)
  | lastOperation (target : Target) (token : Option String) :
      IsQuestion (.lastOperation target token)

/-- **A GET is understood as a question**, on every endpoint. -/
theorem isQuestion_of_get {endpoint : Endpoint} {query : Query} {request : Request}
    {action : Action} (get : request.method = "GET")
    (understood : actionAt endpoint query request = .ok action) : action.IsQuestion := by
  unfold actionAt at understood
  rw [get] at understood
  cases endpoint with
  | catalog =>
    obtain rfl := Except.ok.inj understood
    exact .catalog
  | serviceInstance i =>
    obtain ⟨i, -, understood⟩ := exists_of_bind_eq_ok understood
    obtain rfl := Except.ok.inj understood
    exact .getInstance i
  | instanceLastOperation i =>
    obtain ⟨i, -, understood⟩ := exists_of_bind_eq_ok understood
    obtain rfl := Except.ok.inj understood
    exact .lastOperation _ _
  | serviceBinding i b =>
    obtain ⟨i, -, understood⟩ := exists_of_bind_eq_ok understood
    obtain ⟨b, -, understood⟩ := exists_of_bind_eq_ok understood
    obtain rfl := Except.ok.inj understood
    exact .getBinding i b
  | bindingLastOperation i b =>
    obtain ⟨i, -, understood⟩ := exists_of_bind_eq_ok understood
    obtain ⟨b, -, understood⟩ := exists_of_bind_eq_ok understood
    obtain rfl := Except.ok.inj understood
    exact .lastOperation _ _

/-- **A question is answered alike in every mode**, and nothing is changed by it. -/
theorem Action.IsQuestion.performs {action : Action} (question : action.IsQuestion)
    {store : Store} (idle : store.IsIdle) :
    ∃ answer, ∀ settings random, action.perform settings random store = (answer, store) := by
  cases question with
  | catalog => exact ⟨_, fun _ _ => rfl⟩
  | getInstance instanceId => exact ⟨_, fun _ _ => rfl⟩
  | getBinding instanceId bindingId => exact ⟨_, fun _ _ => rfl⟩
  | lastOperation target token => exact ⟨_, fun _ _ => idle.poll_eq target token⟩

/-- **A GET is answered alike in every mode**, whether it is understood or not. -/
theorem serve_get (settings : Settings) {request : Request} (get : request.method = "GET")
    {store : Store} (idle : store.IsIdle) :
    ∃ response, ∀ mode random,
      serve { settings with mode } random request store = (response, store) := by
  have notHead : request.method ≠ "HEAD" := by
    rw [get]
    decide
  cases understood : understand settings request with
  | error refusal =>
    exact ⟨_, fun mode random => serve_of_refused random store notHead understood⟩
  | ok action =>
    have question : action.IsQuestion := by
      unfold understand at understood
      split at understood
      · exact nomatch understood
      · dsimp only at understood
        split at understood
        · exact nomatch understood
        · exact isQuestion_of_get get understood
    obtain ⟨answer, performs⟩ := question.performs idle
    refine ⟨answer.toResponse, fun mode random => ?_⟩
    have served := @serve_of_understood { settings with mode } random request store notHead action
      understood
    rw [performs] at served
    exact served

end Mock

end ServiceBroker
