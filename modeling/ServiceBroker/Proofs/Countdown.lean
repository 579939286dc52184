import ServiceBroker.Proofs.Effect
import ServiceBroker.Proofs.Modes

/-!
# An accepted change, polled to its end

This module holds a driver with the mock broker itself. Once the broker has accepted
a change, nothing can go wrong any more: every poll arrives, names the right
operation, and is answered. The broker reports progress for as many polls as it was
told to and success after that, and the driver goes on for just as long
(`Driver.run_pollUntilTerminal_making`). If a binding was created, the driver then
fetches it, and it is the one that a broker without a delay would have shown at once.

All that is needed for this is that the client was let in when it asked for the change
(`Broker.IsKnown`). While the change is being made, the store is one in which its
operation has begun (`Change.Making`), and every poll but the last takes one from what
remains.
-/

namespace ServiceBroker

/-! ## The connection -/

namespace Broker

/-- **A client connected with a mock broker** that listens at the client's URL. -/
def connection (broker : Broker) (settings : Mock.Settings) (random : Nat → String) :
    Loopback where
  origin := broker.baseUrl
  settings := settings
  random := random

/-- **The client is known** to a broker with these settings: its requests are sent, and it
is let in. -/
structure IsKnown (broker : Broker) (settings : Mock.Settings) : Prop where
  sent : Loopback.isSendable broker = true
  admitted : settings.Admits broker

section Connection

variable {broker : Broker} {settings : Mock.Settings} {random : Nat → String}
  {state : Loopback.State} {request : Http.Request} {hasBody : Bool} {endpoint : Endpoint}

/-- **A request that arrives** is served. -/
theorem reply_of_sent (path : request.path = broker.baseUrl ++ endpoint.path)
    (headers : request.headers = broker.headers hasBody)
    (sent : (endpoint.path.toList.all Loopback.isUrlChar && Loopback.isSendable broker) = true) :
    (broker.connection settings random).world.reply state request
      = (.ok (Mock.serve settings (random state.served) (endpoint.arrival request)
            state.store).1,
          { state with
            store := (Mock.serve settings (random state.served) (endpoint.arrival request)
              state.store).2
            served := state.served + 1 }) := by
  have listens : (broker.connection settings random).listening = true := rfl
  have arrives := (broker.connection settings random).arrival?_eq path headers
  rw [if_pos sent] at arrives
  rw [Loopback.world_reply, Loopback.reply, if_pos listens, arrives]
  rfl

/-- **A request that is not sent** is a failure of the round trip. -/
theorem reply_of_not_sent (path : request.path = broker.baseUrl ++ endpoint.path)
    (headers : request.headers = broker.headers hasBody)
    (notSent : (endpoint.path.toList.all Loopback.isUrlChar && Loopback.isSendable broker)
      = false) :
    (broker.connection settings random).world.reply state request
      = (.error (.http "no connection"), state) := by
  have listens : (broker.connection settings random).listening = true := rfl
  have arrives := (broker.connection settings random).arrival?_eq path headers
  rw [notSent] at arrives
  rw [Loopback.world_reply, Loopback.reply, if_pos listens, arrives]
  rfl

/-- **What a known client asks for** is performed. -/
theorem IsKnown.reply_eq (known : broker.IsKnown settings) (plain : endpoint.IsPlain)
    (path : request.path = broker.baseUrl ++ endpoint.path)
    (headers : request.headers = broker.headers hasBody) {action : Mock.Action}
    (asks : Mock.actionAt endpoint request.query (endpoint.arrival request) = .ok action) :
    (broker.connection settings random).world.reply state request
      = (.ok (action.perform settings (random state.served) state.store).1.toResponse,
          { state with
            store := (action.perform settings (random state.served) state.store).2
            served := state.served + 1 }) := by
  have sent : (endpoint.path.toList.all Loopback.isUrlChar && Loopback.isSendable broker)
      = true := by rw [Loopback.all_isUrlChar plain, known.sent, Bool.and_self]
  have understood : Mock.understand settings (endpoint.arrival request) = .ok action := by
    rw [Mock.understand_arrival settings headers plain, if_pos known.admitted, asks]
  rw [reply_of_sent path headers sent,
    Mock.serve_of_understood _ _ (Mock.name_ne_head request.method) understood]

end Connection

end Broker

/-! ## Asking after a change -/

namespace Mock

section Get

variable {instanceId bindingId : String} {query : Query} {arrival : Request}

/-- Asking for a binding. -/
theorem actionAt_getBinding (instancePlain : IsPlainId instanceId)
    (bindingPlain : IsPlainId bindingId) (get : arrival.method = "GET") :
    actionAt (.serviceBinding instanceId bindingId) query arrival
      = .ok (.getBinding instanceId bindingId) := by
  unfold actionAt
  rw [get]
  show (instanceIdOf instanceId).bind _ = _
  rw [instanceIdOf_eq instancePlain]
  show (bindingIdOf bindingId).bind _ = _
  rw [bindingIdOf_eq bindingPlain]
  rfl

/-- Asking for the last operation on an instance. -/
theorem actionAt_instanceLastOperation (instancePlain : IsPlainId instanceId)
    (get : arrival.method = "GET") :
    actionAt (.instanceLastOperation instanceId) query arrival
      = .ok (.lastOperation (.serviceInstance instanceId) (query.get? "operation")) := by
  unfold actionAt
  rw [get]
  show (instanceIdOf instanceId).bind _ = _
  rw [instanceIdOf_eq instancePlain]
  rfl

/-- Asking for the last operation on a binding. -/
theorem actionAt_bindingLastOperation (instancePlain : IsPlainId instanceId)
    (bindingPlain : IsPlainId bindingId) (get : arrival.method = "GET") :
    actionAt (.bindingLastOperation instanceId bindingId) query arrival
      = .ok (.lastOperation (.serviceBinding instanceId bindingId) (query.get? "operation")) := by
  unfold actionAt
  rw [get]
  show (instanceIdOf instanceId).bind _ = _
  rw [instanceIdOf_eq instancePlain]
  show (bindingIdOf bindingId).bind _ = _
  rw [bindingIdOf_eq bindingPlain]
  rfl

end Get

end Mock

namespace Change

/-- **A tracked change is asked after on its own target.** -/
theorem actionAt_track (change : Change) (plain : change.endpoint.IsPlain)
    (token : Option String) {query : Mock.Query} {arrival : Mock.Request}
    (get : arrival.method = "GET") :
    Mock.actionAt (change.track token).endpoint query arrival
      = .ok (.lastOperation change.target (query.get? "operation")) := by
  cases change with
  | provision request => exact Mock.actionAt_instanceLastOperation (plain _ (.head _)) get
  | deprovision request => exact Mock.actionAt_instanceLastOperation (plain _ (.head _)) get
  | bind request =>
    exact Mock.actionAt_bindingLastOperation (plain _ (.head _)) (plain _ (.tail _ (.head _))) get
  | unbind request =>
    exact Mock.actionAt_bindingLastOperation (plain _ (.head _)) (plain _ (.tail _ (.head _))) get

theorem isPlain_track {change : Change} (plain : change.endpoint.IsPlain)
    (token : Option String) : (change.track token).endpoint.IsPlain := by
  cases change <;> exact plain

end Change

/-- **A change is being made.** Its operation has begun on a store that holds its target,
whatever else is in flight there, and the client has the right token or none. -/
structure Change.Making (change : Change) (token : Option String) (store : Mock.Store)
    (remaining : Nat) (state : Loopback.State) : Prop where
  holds : store.holds change.target = true
  begun : ∃ name, name ≠ "" ∧ (token = none ∨ token = some name) ∧
    state.store = store.begin change.target change.kind name remaining
  /-- The client's token is not cancelled. -/
  running : state.cancelled = false

/-- **A change has been made**: the store is that in which its operation has finished. -/
structure Change.IsMade (change : Change) (store : Mock.Store) (state : Loopback.State) :
    Prop where
  store : state.store = store.finish change.target change.kind
  /-- The client's token is not cancelled. -/
  running : state.cancelled = false

/-- A token that the client has is not empty. -/
theorem Change.Making.named {change : Change} {token : Option String} {store : Mock.Store}
    {remaining : Nat} {state : Loopback.State}
    (making : change.Making token store remaining state) : token ≠ some "" := by
  obtain ⟨name, nonempty, rfl | rfl, begun⟩ := making.begun
  · exact nofun
  · exact fun empty => nonempty (Option.some.inj empty)

namespace Driver

/-- **The question of a poll names the token**, unless there is none. -/
theorem get?_pollRequest (driver : Driver) (tracked : TrackedOperation)
    (named : tracked.operation ≠ some "") :
    Mock.Query.get? (driver.pollRequest tracked).query "operation" = tracked.operation := by
  show Mock.Query.get? (correlate "service_id" tracked.serviceId
    ++ correlate "plan_id" tracked.planId ++ correlate "operation" tracked.operation) _ = _
  cases hoperation : tracked.operation with
  | none =>
    rw [show correlate "operation" none = [] from rfl, List.append_nil,
      Mock.Query.get?_append_correlate_of_ne _ (show "operation" ≠ "plan_id" by decide)]
    exact Mock.Query.get?_append_correlate_of_ne [] (show "operation" ≠ "service_id" by decide)
      (some tracked.serviceId)
  | some token =>
    rw [hoperation] at named
    exact Mock.Query.get?_append_correlate _ _ fun empty => named (congrArg some empty)

section Known

variable {driver : Driver} {settings : Mock.Settings} {random : Nat → String} {change : Change}
  {token : Option String}

/-- **The reply to a poll** of a change is what the store says of it. -/
theorem asked_connection (known : driver.broker.IsKnown settings)
    (plain : change.endpoint.IsPlain) (named : token ≠ some "") (state : Loopback.State) :
    driver.asked (driver.broker.connection settings random).world (change.track token) state
      = (.ok (state.store.poll change.target token).1.toResponse,
          { state with
            store := (state.store.poll change.target token).2
            served := state.served + 1 }) := by
  have operation : (change.track token).operation = token := by cases change <;> rfl
  have asks := @Change.actionAt_track change plain token
    (driver.pollRequest (change.track token)).query
    ((change.track token).endpoint.arrival (driver.pollRequest (change.track token))) rfl
  rw [get?_pollRequest driver (change.track token) (by rw [operation]; exact named),
    operation] at asks
  exact known.reply_eq (change.isPlain_track plain token) rfl rfl asks

/-- **The reply that shows a binding** that is held and not just being created. -/
theorem fetch_connection (known : driver.broker.IsKnown settings) {tracked : TrackedOperation}
    {bindingId : String} (plain : (Endpoint.serviceBinding tracked.instanceId bindingId).IsPlain)
    {state : Loopback.State}
    (quiet : state.store.inFlight (.serviceBinding tracked.instanceId bindingId) .bind = false)
    (holds : state.store.holds (.serviceBinding tracked.instanceId bindingId) = true) :
    (driver.broker.connection settings random).world.reply state
        (driver.fetchRequest tracked bindingId)
      = (.ok (Mock.Answer.credentials 200 tracked.instanceId bindingId).toResponse,
          { state with served := state.served + 1 }) := by
  set request := driver.fetchRequest tracked bindingId
  set endpoint := Endpoint.serviceBinding tracked.instanceId bindingId
  have asks : Mock.actionAt endpoint request.query (endpoint.arrival request)
      = .ok (.getBinding tracked.instanceId bindingId) :=
    Mock.actionAt_getBinding (plain _ (.head _)) (plain _ (.tail _ (.head _))) rfl
  have shows : Mock.getBinding tracked.instanceId bindingId state.store
      = .credentials 200 tracked.instanceId bindingId := by
    unfold Mock.getBinding
    dsimp only
    rw [holds, quiet]
    rfl
  rw [known.reply_eq plain rfl rfl asks]
  show (Except.ok (Mock.getBinding tracked.instanceId bindingId state.store).toResponse, _) = _
  rw [shows]
  rfl

/-! ### The countdown -/

variable {store : Mock.Store} {state : Loopback.State}

/-- **A poll takes one from what remains**, and leaves the change in flight. -/
theorem run_poll_making (known : driver.broker.IsKnown settings)
    (plain : change.endpoint.IsPlain) {remaining : Nat}
    (making : change.Making token store (remaining + 1) state) :
    ∃ description next, (driver.poll (change.track token)).run
        (driver.broker.connection settings random).world state
      = { result := .ok (.inFlight (change.track token) description), state := next
          requests := [driver.pollRequest (change.track token)] } ∧
      change.Making token store remaining next := by
  obtain ⟨name, nonempty, right, begun⟩ := making.begun
  have asked := @asked_connection driver settings random change token known plain making.named
    state
  rw [begun, Mock.Store.poll_begin_succ _ _ _ _ right] at asked
  have answers : (driver.asked (driver.broker.connection settings random).world
      (change.track token) state).1.Answers LastOperation.ofBody
      { state := .inProgress, description := some (change.kind.name ++ " in progress") } := by
    rw [asked]
    exact ⟨_, rfl, rfl, Mock.ofBody_inProgress change.kind⟩
  refine ⟨_, _, run_poll_of_inProgress answers, ?_⟩
  rw [asked]
  exact ⟨making.holds, ⟨name, nonempty, right, rfl⟩, making.running⟩

/-- **The last poll finishes the change.** The binding that was created is fetched. -/
theorem run_poll_made (known : driver.broker.IsKnown settings)
    (plain : change.endpoint.IsPlain) (making : change.Making token store 0 state) :
    let run := (driver.poll (change.track token)).run
      (driver.broker.connection settings random).world state
    run.result = .ok (.succeeded change.granted?) ∧ change.IsMade store run.state := by
  obtain ⟨name, nonempty, right, begun⟩ := making.begun
  have asked := @asked_connection driver settings random change token known plain making.named
    state
  rw [begun, Mock.Store.poll_begin_zero _ _ _ _ right] at asked
  have success : (driver.asked (driver.broker.connection settings random).world
      (change.track token) state).1.ReportsSuccess := by
    rw [asked]
    exact ⟨_, ⟨_, rfl, rfl, Mock.ofBody_succeeded⟩, rfl⟩
  have nothing (creates : (change.track token).creates? = none)
      (granted : change.granted? = none) :
      let run := (driver.poll (change.track token)).run
        (driver.broker.connection settings random).world state
      run.result = .ok (.succeeded change.granted?) ∧ change.IsMade store run.state := by
    dsimp only
    rw [run_poll_of_success success creates, asked, granted]
    exact ⟨rfl, rfl, making.running⟩
  cases change with
  | provision request => exact nothing rfl rfl
  | deprovision request => exact nothing rfl rfl
  | unbind request => exact nothing rfl rfl
  | bind request =>
    have free : (store.finish (Change.bind request).target .bind).operations.get?
        (Change.bind request).target = none :=
      (store.get?_operations_finish _ _ _).trans (if_pos rfl)
    -- Between the two requests of this poll the store is already the finished one.
    have shown : driver.shown (driver.broker.connection settings random).world
        ((Change.bind request).track token) state request.bindingId
        = (.ok (Mock.Answer.credentials 200 request.instanceId request.bindingId).toResponse,
            { state with
              store := store.finish (Change.bind request).target .bind
              served := state.served + 1 + 1 }) := by
      unfold Driver.shown
      rw [asked]
      exact @fetch_connection driver settings random known ((Change.bind request).track token)
        request.bindingId plain
        { state with
          store := store.finish (Change.bind request).target .bind
          served := state.served + 1 }
        (Mock.Store.inFlight_of_free free _) making.holds
    have answers : (driver.shown (driver.broker.connection settings random).world
        ((Change.bind request).track token) state request.bindingId).1.Answers Binding.ofBody
        (Mock.grantedBinding request.instanceId request.bindingId) := by
      rw [shown]
      exact ⟨_, rfl, rfl, Mock.ofBody_credentials 200 _ _⟩
    dsimp only
    rw [run_poll_of_success_fetch success rfl, fetched_of_answer answers, shown]
    exact ⟨rfl, rfl, making.running⟩

/-- **The countdown**: polls and waits take turns until nothing remains, by induction on
what remains. There are rounds enough for that. -/
theorem run_countdown (known : driver.broker.IsKnown settings) (plain : change.endpoint.IsPlain)
    (interval : Duration) {remaining rounds : Nat} (enough : remaining ≤ rounds)
    (making : change.Making token store remaining state) :
    let run := ((driver.poll (change.track token)).bind (driver.goOn interval rounds)).run
      (driver.broker.connection settings random).world state
    run.result = some (.ok (.succeeded change.granted?)) ∧ change.IsMade store run.state := by
  induction remaining generalizing rounds state with
  | zero =>
    obtain ⟨result, made⟩ :=
      @run_poll_made driver settings random change token store state known plain making
    have ended : driver.goOn interval rounds (.ok (.succeeded change.granted?))
        = .done (some (.ok (.succeeded change.granted?))) :=
      driver.goOn_eq_done interval rounds nofun
    rw [Dialogue.run_bind]
    dsimp only
    rw [result, ended]
    exact ⟨rfl, made⟩
  | succ remaining ih =>
    obtain ⟨description, next, polled, making⟩ :=
      @run_poll_making driver settings random change token store state known plain remaining
        making
    obtain ⟨rounds, rfl⟩ : ∃ fewer, rounds = fewer + 1 := ⟨rounds - 1, by omega⟩
    -- The wait changes nothing: the world's time passes in an instant.
    have still : (driver.broker.connection settings random).world.wait next interval
        = (false, next) := congrArg (·, next) making.running
    rw [Dialogue.run_bind, polled]
    dsimp only
    rw [run_goOn_inFlight, still, if_neg Bool.false_ne_true]
    exact ih (Nat.le_of_succ_le_succ enough) making

/-- **A change that is being made, polled until its end**, has been made, and the driver
reports its success. -/
theorem run_pollUntilTerminal_making (known : driver.broker.IsKnown settings)
    (plain : change.endpoint.IsPlain) (interval : Duration) {remaining rounds : Nat}
    (enough : remaining ≤ rounds) (making : change.Making token store remaining state) :
    let run := (driver.pollUntilTerminal rounds interval (change.track token)).run
      (driver.broker.connection settings random).world state
    run.result = some (.ok (.succeeded change.granted?)) ∧ change.IsMade store run.state := by
  have running : (driver.broker.connection settings random).world.cancelled state = false :=
    making.running
  rw [run_pollUntilTerminal, running, if_neg Bool.false_ne_true]
  exact run_countdown known plain interval enough making

end Known

end Driver

end ServiceBroker
