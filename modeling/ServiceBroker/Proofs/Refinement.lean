import Mathlib.Data.List.Forall2
import ServiceBroker.Proofs.Countdown

/-!
# A delay makes no difference

Two callers run the same errands, one after the other. The broker of the first makes
every change at once; the broker of the second accepts it, and the caller polls the
operation to its end before going on. The second caller learns what the first one
learns: the same answers and the same errors, and of every change that was made, that
it was made, with the same binding (`Driver.async_refines_sync`). In the end the two
brokers hold the same instances and bindings.

The two stores are the same before every errand, and nothing is in flight
(`InStep`). While a change is being made they differ: the second broker has an operation
in flight, and what is to be deleted is still there. `Mock.serve_change` says how such a
change begins, the countdown leads it to its end, and the stores are the same again
(`InStep.make`).
-/

namespace ServiceBroker

/-! ## Errands -/

/-- **What a caller wants done.** -/
inductive Errand where
  /-- Make a change. -/
  | make (change : Change)
  /-- Ask something by an operation that changes nothing. -/
  | ask (operation : Operation) (harmless : operation.acceptsIncomplete = false)
      (input : operation.Input)

/-- The identifiers of what is changed need no escape. -/
def Errand.IsPlain : Errand → Prop
  | .make change => change.endpoint.IsPlain
  | .ask _ _ _ => True

/-- **What a caller learns.** -/
inductive Report where
  /-- How far a change has come, unless the rounds ran out. -/
  | progress (result : Option Driver.Result)
  /-- The answer to a question. -/
  | answer (operation : Operation) (answer : Except CallError operation.Answer)

/-- **Two callers learn the same**: the second may learn of a success where the first
sees a change complete at once. -/
inductive Report.Agree : Report → Report → Prop where
  /-- Both changes were made at once. -/
  | complete (binding : Option Binding) :
      Agree (.progress (some (.ok (.complete binding))))
        (.progress (some (.ok (.complete binding))))
  /-- One change was made at once and the other one later. -/
  | succeeded (binding : Option Binding) :
      Agree (.progress (some (.ok (.complete binding))))
        (.progress (some (.ok (.succeeded binding))))
  /-- Both calls failed. -/
  | error (error : CallError) :
      Agree (.progress (some (.error error))) (.progress (some (.error error)))
  /-- Both calls answered a question, or failed to, in the same way. -/
  | answer (operation : Operation) (answer : Except CallError operation.Answer) :
      Agree (.answer operation answer) (.answer operation answer)

namespace Driver

/-- Asking a question. -/
def ask (driver : Driver) (operation : Operation) (input : operation.Input) : Dialogue Report :=
  (driver.broker.call operation input).bind fun answer => .done (.answer operation answer)

/-- **Running an errand without waiting**: a change is started, and that is all. -/
def attempt (driver : Driver) : Errand → Dialogue Report
  | .make change => (driver.start change).bind fun result => .done (.progress (some result))
  | .ask operation _ input => driver.ask operation input

/-- **Following a change**: what is in flight is polled until it has ended. -/
def follow (driver : Driver) (rounds : Nat) (interval : Duration) :
    Result → Dialogue (Option Result)
  | .ok (.inFlight tracked _) => driver.pollUntilTerminal rounds interval tracked
  | ended => .done (some ended)

/-- **Running an errand to its end**: a change is started and followed. -/
def carryOut (driver : Driver) (rounds : Nat) (interval : Duration) : Errand → Dialogue Report
  | .make change =>
    ((driver.start change).bind (driver.follow rounds interval)).bind fun result =>
      .done (.progress result)
  | .ask operation _ input => driver.ask operation input

end Driver

/-- **Running one dialogue after the other**: the results, and the state in the end. -/
def Dialogue.runAll {σ α β : Type} (world : Dialogue.World σ) (act : α → Dialogue β) :
    List α → σ → List β × σ
  | [], state => ([], state)
  | a :: rest, state =>
    let run := (act a).run world state
    let later := runAll world act rest run.state
    (run.result :: later.1, later.2)

/-! ## One errand -/

namespace Driver

section Runs

variable {σ : Type} {world : Dialogue.World σ} (driver : Driver) {change : Change}
  {state after : σ} {reply : Reply} {result : Result}

/-- The run of a start that ends with its first reply. -/
theorem run_start (replies : world.reply state (change.request driver.broker) = (reply, after))
    (ends : driver.takeUp change (change.outcome reply) = .done result) :
    (driver.start change).run world state
      = { result := result, state := after, requests := [change.request driver.broker] } := by
  rw [start_eq, Dialogue.run_send, replies]
  dsimp only
  rw [ends]
  rfl

/-- Without waiting, the result of the start is what is learned. -/
theorem run_attempt (replies : world.reply state (change.request driver.broker) = (reply, after))
    (ends : driver.takeUp change (change.outcome reply) = .done result) :
    (driver.attempt (.make change)).run world state
      = { result := .progress (some result), state := after
          requests := [change.request driver.broker] } := by
  unfold attempt
  rw [Dialogue.run_bind, run_start driver replies ends]
  rfl

/-- To the end, the result of the start is followed. -/
theorem run_carryOut (rounds : Nat) (interval : Duration)
    (replies : world.reply state (change.request driver.broker) = (reply, after))
    (ends : driver.takeUp change (change.outcome reply) = .done result) :
    let run := (driver.carryOut rounds interval (.make change)).run world state
    let followed := (driver.follow rounds interval result).run world after
    run.result = .progress followed.result ∧ run.state = followed.state := by
  unfold carryOut
  rw [Dialogue.run_bind, Dialogue.run_bind, run_start driver replies ends]
  exact ⟨rfl, rfl⟩

/-- Asking a question takes one round trip. -/
theorem run_ask {operation : Operation} {input : operation.Input}
    (replies : world.reply state (driver.broker.request operation input) = (reply, after)) :
    (driver.ask operation input).run world state
      = { result := .answer operation (operation.read reply), state := after
          requests := [driver.broker.request operation input] } := by
  unfold ask
  rw [Broker.call_eq]
  show Dialogue.run world (.send (driver.broker.request operation input) _) state = _
  rw [Dialogue.run_send, replies]
  rfl

end Runs

/-- **A reply that does not accept a change ends it**, for every driver: with an error,
or complete. -/
theorem exists_ending (change : Change) {reply : Reply}
    (notAccepted : ∀ token, ¬ reply.Accepts token) :
    ∃ ending : Result,
      (∀ driver : Driver, driver.takeUp change (change.outcome reply) = .done ending) ∧
      (∀ (driver : Driver) (rounds : Nat) (interval : Duration),
        driver.follow rounds interval ending = .done (some ending)) ∧
      Report.Agree (.progress (some ending)) (.progress (some ending)) := by
  cases outcome : change.outcome reply with
  | error error => exact ⟨.error error, fun _ => rfl, fun _ _ _ => rfl, .error error⟩
  | ok result =>
    cases result with
    | complete binding =>
      exact ⟨.ok (.complete binding), fun _ => rfl, fun _ _ _ => rfl, .complete binding⟩
    | accepted token =>
      exact absurd ((change.outcome_eq_accepted_iff reply token).mp outcome) (notAccepted token)

/-- **An acceptance leaves the change in flight**, with the token or without. -/
theorem takeUp_of_accepts {driver : Driver}
    (policy : driver.settings.missingToken = .pollWithoutToken) {change : Change} {reply : Reply}
    {token : Option String} (accepts : reply.Accepts token) :
    driver.takeUp change (change.outcome reply)
      = .done (.ok (.inFlight (change.track token) none)) := by
  rw [(change.outcome_eq_accepted_iff reply token).mpr accepts]
  show driver.accepted (change.track token) = _
  unfold accepted
  rw [if_neg]
  rw [policy]
  exact fun assumes => nomatch assumes.2

end Driver

theorem Operation.method_of_harmless {operation : Operation}
    (harmless : operation.acceptsIncomplete = false) : operation.method = .get := by
  cases operation <;> first | rfl | exact nomatch harmless

/-! ### What the two brokers have in common -/

/-- **Two connections in step**: both brokers hold the same, nothing is in flight, and
the second caller's token is not cancelled. -/
structure InStep (sync async : Loopback.State) : Prop where
  store : sync.store = async.store
  idle : async.store.IsIdle
  running : async.cancelled = false

/-- **An errand keeps two connections in step**: afterwards they are in step again, and
both callers have learned the same. -/
def KeepsInStep (world world' : Dialogue.World Loopback.State) (driver driver' : Driver)
    (rounds : Nat) (interval : Duration) (errand : Errand) (sync async : Loopback.State) : Prop :=
  let run := (driver.attempt errand).run world sync
  let run' := (driver'.carryOut rounds interval errand).run world' async
  Report.Agree run.result run'.result ∧ InStep run.state run'.state

/-- **The same reply keeps two connections in step**, unless it is an acceptance. -/
theorem keepsInStep_of_same_reply {world world' : Dialogue.World Loopback.State}
    (driver driver' : Driver) {change : Change} {sync async after after' : Loopback.State}
    {reply : Reply} (replies : world.reply sync (change.request driver.broker) = (reply, after))
    (replies' : world'.reply async (change.request driver'.broker) = (reply, after'))
    (notAccepted : ∀ token, ¬ reply.Accepts token) (inStep : InStep after after') (rounds : Nat)
    (interval : Duration) :
    KeepsInStep world world' driver driver' rounds interval (.make change) sync async := by
  obtain ⟨ending, ends, stays, agree⟩ := Driver.exists_ending change notAccepted
  have attempted := driver.run_attempt replies (ends driver)
  obtain ⟨result', state'⟩ := driver'.run_carryOut rounds interval replies' (ends driver')
  rw [stays] at result' state'
  unfold KeepsInStep
  dsimp only
  rw [attempted, result', state']
  exact ⟨agree, inStep⟩

/-- The same client at another URL. -/
def Broker.moved (broker : Broker) (url : String) : Broker := { broker with url := url }

section Errands

variable (client : Broker) (url : String) (settings : Mock.Settings) (random other : Nat → String)
  {polls rounds : Nat} (interval : Duration) {sync async : Loopback.State}

/-- **The broker that makes changes at once**, and the client's connection with it. -/
def syncWorld : Dialogue.World Loopback.State :=
  (client.connection settings.sync random).world

/-- **The broker that accepts changes first**, at another URL. -/
def asyncWorld (polls : Nat) : Dialogue.World Loopback.State :=
  ((client.moved url).connection (settings.async polls) other).world

theorem arrival_request_moved (endpoint : Endpoint) (operation : Operation)
    (input : operation.Input) :
    endpoint.arrival ((client.moved url).request operation input)
      = endpoint.arrival (client.request operation input) := by
  unfold Endpoint.arrival
  rfl

theorem arrival_moved (change : Change) :
    change.endpoint.arrival (change.request (client.moved url))
      = change.endpoint.arrival (change.request client) := by
  cases change <;> exact arrival_request_moved client url _ _ _

/-- **A change that begins keeps the brokers in step**: the client learns at once that it
is complete, and from the other broker that it succeeded in the end. -/
theorem keepsInStep_of_begins {change : Change} (plain : change.endpoint.IsPlain)
    (known : client.IsKnown settings) (enough : polls ≤ rounds) {store : Mock.Store}
    (idle : store.IsIdle) {name : String} (nonempty : name ≠ "") {after after' : Loopback.State}
    (replies : (syncWorld client settings random).reply sync (change.request client)
      = (.ok change.made.toResponse, after))
    (made : after.store = store.finish change.target change.kind)
    (replies' : (asyncWorld client url settings other polls).reply async
        (change.request (client.moved url))
      = (.ok (Mock.Answer.accepted settings name).toResponse, after'))
    (making : change.Making (settings.shownToken name) store polls after') :
    KeepsInStep (syncWorld client settings random) (asyncWorld client url settings other polls)
      { broker := client } { broker := client.moved url } rounds interval (.make change)
      sync async := by
  set driver : Driver := { broker := client }
  set driver' : Driver := { broker := client.moved url }
  have complete : driver.takeUp change (change.outcome (.ok change.made.toResponse))
      = .done (.ok (.complete change.granted?)) := by
    rw [change.outcome_made]
    rfl
  have inFlight : driver'.takeUp change
      (change.outcome (.ok (Mock.Answer.accepted settings name).toResponse))
      = .done (.ok (.inFlight (change.track (settings.shownToken name)) none)) :=
    Driver.takeUp_of_accepts rfl ⟨_, rfl, rfl, Mock.tokenOf_accepted settings nonempty⟩
  have known' : driver'.broker.IsKnown (settings.async polls) := ⟨known.sent, known.admitted⟩
  have attempted := driver.run_attempt replies complete
  obtain ⟨result', state'⟩ := driver'.run_carryOut rounds interval replies' inFlight
  -- The other client needs as many polls as the broker asks for, and has the rounds for them.
  have followed :
      let run := (driver'.follow rounds interval
        (.ok (.inFlight (change.track (settings.shownToken name)) none))).run
        (asyncWorld client url settings other polls) after'
      run.result = some (.ok (.succeeded change.granted?)) ∧ change.IsMade store run.state :=
    Driver.run_pollUntilTerminal_making known' plain interval enough making
  obtain ⟨succeeded, made'⟩ := followed
  unfold KeepsInStep
  dsimp only
  rw [attempted, result', state', succeeded]
  refine ⟨.succeeded change.granted?, ?_, ?_, made'.running⟩
  · rw [made, made'.store]
  · rw [made'.store]
    exact idle.finish change.target change.kind

/-- **Every change keeps the brokers in step.** -/
theorem InStep.make (inStep : InStep sync async) {change : Change}
    (plain : change.endpoint.IsPlain) (enough : polls ≤ rounds) :
    KeepsInStep (syncWorld client settings random) (asyncWorld client url settings other polls)
      { broker := client } { broker := client.moved url } rounds interval (.make change)
      sync async := by
  obtain ⟨hasBody, headers⟩ := change.exists_headers_request client
  obtain ⟨hasBody', headers'⟩ := change.exists_headers_request (client.moved url)
  have path := change.path_request client
  have path' := change.path_request (client.moved url)
  cases sent : change.endpoint.path.toList.all Loopback.isUrlChar
      && Loopback.isSendable client with
  | false =>
    have notAccepted (token : Option String) :
        ¬ Reply.Accepts (.error (.http "no connection")) token := fun ⟨_, h, _⟩ => nomatch h
    have replies : (syncWorld client settings random).reply sync (change.request client)
        = (.error (.http "no connection"), sync) :=
      Broker.reply_of_not_sent path headers sent
    have replies' : (asyncWorld client url settings other polls).reply async
        (change.request (client.moved url)) = (.error (.http "no connection"), async) :=
      Broker.reply_of_not_sent path' headers' sent
    exact keepsInStep_of_same_reply { broker := client } { broker := client.moved url }
      replies replies' notAccepted inStep rounds interval
  | true =>
    have replies : (syncWorld client settings random).reply sync (change.request client) = _ :=
      Broker.reply_of_sent path headers sent
    have replies' : (asyncWorld client url settings other polls).reply async
        (change.request (client.moved url)) = _ :=
      Broker.reply_of_sent path' headers' sent
    -- From here on both brokers serve the same arrival on the same store.
    rw [inStep.store] at replies
    rw [arrival_moved] at replies'
    obtain ⟨response, status, serves⟩ | ⟨admits, begun, idle, holds, serves, serves'⟩ :=
      Mock.serve_change settings client plain inStep.idle
    · have served : Mock.serve settings.sync (random sync.served)
          (change.endpoint.arrival (change.request client)) async.store
          = (response, async.store) := serves .sync _
      have served' : Mock.serve (settings.async polls) (other async.served)
          (change.endpoint.arrival (change.request client)) async.store
          = (response, async.store) := serves (.async polls) _
      have notAccepted (token : Option String) : ¬ Reply.Accepts (.ok response) token := by
        rintro ⟨answer, same, accepted, _⟩
        obtain rfl := Except.ok.inj same
        exact status accepted
      rw [served] at replies
      rw [served'] at replies'
      exact keepsInStep_of_same_reply { broker := client } { broker := client.moved url }
        replies replies' notAccepted ⟨rfl, inStep.idle, inStep.running⟩ rounds interval
    · have known : client.IsKnown settings := ⟨(Bool.and_eq_true_iff.mp sent).2, admits⟩
      have nonempty : change.kind.name ++ "-" ++ other async.served ≠ "" := by
        simp
      rw [serves] at replies
      rw [serves'] at replies'
      exact keepsInStep_of_begins client url settings random other interval plain known enough
        idle nonempty replies rfl replies'
        ⟨holds, ⟨_, nonempty, settings.shownToken_eq _, rfl⟩, inStep.running⟩

/-- **Every question keeps the brokers in step.** -/
theorem InStep.ask (inStep : InStep sync async) {operation : Operation}
    (harmless : operation.acceptsIncomplete = false) (input : operation.Input) :
    KeepsInStep (syncWorld client settings random) (asyncWorld client url settings other polls)
      { broker := client } { broker := client.moved url } rounds interval
      (.ask operation harmless input) sync async := by
  -- Whatever the endpoint is, a GET is no change, so its identifiers may be anything.
  have get : ((operation.endpoint input).arrival (client.request operation input)).method
      = "GET" := congrArg Http.Method.name (Operation.method_of_harmless harmless)
  unfold KeepsInStep Driver.attempt Driver.carryOut
  dsimp only
  cases sent : (operation.endpoint input).path.toList.all Loopback.isUrlChar
      && Loopback.isSendable client with
  | false =>
    have replies : (syncWorld client settings random).reply sync
        (client.request operation input) = (.error (.http "no connection"), sync) :=
      Broker.reply_of_not_sent rfl rfl sent
    have replies' : (asyncWorld client url settings other polls).reply async
        ((client.moved url).request operation input)
        = (.error (.http "no connection"), async) :=
      Broker.reply_of_not_sent rfl rfl sent
    rw [Driver.run_ask { broker := client } replies,
      Driver.run_ask { broker := client.moved url } replies']
    exact ⟨.answer operation _, inStep⟩
  | true =>
    have replies : (syncWorld client settings random).reply sync
        (client.request operation input) = _ := Broker.reply_of_sent rfl rfl sent
    have replies' : (asyncWorld client url settings other polls).reply async
        ((client.moved url).request operation input) = _ := Broker.reply_of_sent rfl rfl sent
    obtain ⟨response, serves⟩ := Mock.serve_get settings get inStep.idle
    have served : Mock.serve settings.sync (random sync.served)
        ((operation.endpoint input).arrival (client.request operation input)) async.store
        = (response, async.store) := serves .sync _
    have served' : Mock.serve (settings.async polls) (other async.served)
        ((operation.endpoint input).arrival (client.request operation input)) async.store
        = (response, async.store) := serves (.async polls) _
    rw [inStep.store, served] at replies
    rw [arrival_request_moved, served'] at replies'
    rw [Driver.run_ask { broker := client } replies,
      Driver.run_ask { broker := client.moved url } replies']
    exact ⟨.answer operation _, rfl, inStep.idle, inStep.running⟩

/-! ## All errands -/

/-- **All errands keep the brokers in step**, by induction on the errands. -/
theorem InStep.runAll (enough : polls ≤ rounds) {errands : List Errand}
    (plain : ∀ errand ∈ errands, errand.IsPlain) (inStep : InStep sync async) :
    let first := Dialogue.runAll (syncWorld client settings random)
      (Driver.attempt { broker := client }) errands sync
    let second := Dialogue.runAll (asyncWorld client url settings other polls)
      (Driver.carryOut { broker := client.moved url } rounds interval) errands async
    List.Forall₂ Report.Agree first.1 second.1 ∧ InStep first.2 second.2 := by
  induction errands generalizing sync async with
  | nil => exact ⟨.nil, inStep⟩
  | cons errand errands ih =>
    have keeps : KeepsInStep (syncWorld client settings random)
        (asyncWorld client url settings other polls) { broker := client }
        { broker := client.moved url } rounds interval errand sync async := by
      cases errand with
      | make change =>
        exact inStep.make client url settings random other interval (plain _ (.head _)) enough
      | ask operation harmless input =>
        exact inStep.ask client url settings random other interval harmless input
    obtain ⟨agree, inStep⟩ := keeps
    obtain ⟨agrees, inStep⟩ := ih (fun errand mem => plain errand (.tail _ mem)) inStep
    exact ⟨.cons agree agrees, inStep⟩

/-- **A delay makes no difference.** A client runs errands on two brokers with the same
credentials, both empty at first. One makes every change at once; the other accepts it,
with or without a token, and the client polls it to its end before it goes on. Whatever
the errands are, the client learns the same from both, one errand after the other, and
in the end both brokers hold the same, with nothing in flight. -/
theorem Driver.async_refines_sync (enough : polls ≤ rounds) (errands : List Errand)
    (plain : ∀ errand ∈ errands, errand.IsPlain) :
    let first := Dialogue.runAll (client.connection settings.sync random).world
      (Driver.attempt { broker := client }) errands {}
    let second := Dialogue.runAll
      ((client.moved url).connection (settings.async polls) other).world
      (Driver.carryOut { broker := client.moved url } rounds interval) errands {}
    List.Forall₂ Report.Agree first.1 second.1
      ∧ first.2.store = second.2.store ∧ second.2.store.operations = {} := by
  intro first second
  have start : InStep {} {} := ⟨rfl, rfl, rfl⟩
  obtain ⟨agrees, inStep⟩ := start.runAll client url settings random other interval enough plain
  exact ⟨agrees, inStep.store, inStep.idle⟩

end Errands

/-- **The life of an instance**: it is created and bound, the binding is read and deleted,
and so is the instance. -/
def Errand.lifecycle : List Errand :=
  [.make (.provision
      { instanceId := "i-1", serviceId := "s", planId := "p", organizationGuid := "o"
        spaceGuid := "g" }),
    .make (.bind { instanceId := "i-1", bindingId := "b~2", serviceId := "s", planId := "p" }),
    .ask .getBinding rfl
      { instanceId := "i-1", bindingId := "b~2", serviceId := "s", planId := "p" },
    .make (.unbind { instanceId := "i-1", bindingId := "b~2", serviceId := "s", planId := "p" }),
    .make (.deprovision { instanceId := "i-1", serviceId := "s", planId := "p" })]

/-- Two polls find each operation of a life in progress, and three rounds are enough. -/
theorem Driver.async_refines_sync_lifecycle :
    2 ≤ 3 ∧ (∀ errand ∈ Errand.lifecycle, errand.IsPlain) ∧
      let client := Broker.make "http://broker" "admin" "secret"
      let first := Dialogue.runAll (client.connection (Mock.Settings.sync {}) fun _ => "r").world
        (Driver.attempt { broker := client }) Errand.lifecycle {}
      let second := Dialogue.runAll
        ((client.moved "http://other").connection (Mock.Settings.async {} 2) fun _ => "r").world
        (Driver.carryOut { broker := client.moved "http://other" } 3 (Duration.ofMilliseconds 1))
        Errand.lifecycle {}
      List.Forall₂ Report.Agree first.1 second.1
        ∧ first.2.store = second.2.store ∧ second.2.store.operations = {} := by
  have enough : 2 ≤ 3 := by decide
  have plain : ∀ errand ∈ Errand.lifecycle, errand.IsPlain := by
    have instanceIds : ∀ id ∈ ["i-1"], IsPlainId id := by decide
    have ids : ∀ id ∈ ["i-1", "b~2"], IsPlainId id := by decide
    intro errand mem
    simp only [Errand.lifecycle, List.mem_cons, List.not_mem_nil, or_false] at mem
    obtain rfl | rfl | rfl | rfl | rfl := mem
    · exact instanceIds
    · exact ids
    · exact trivial
    · exact ids
    · exact instanceIds
  exact ⟨enough, plain, Driver.async_refines_sync (Broker.make "http://broker" "admin" "secret")
    "http://other" {} (fun _ => "r") (fun _ => "r") (Duration.ofMilliseconds 1) enough _ plain⟩

end ServiceBroker
