import ServiceBroker.Client.Script
import ServiceBroker.Proofs.Calls

/-!
# Where the credentials go

A broker's name and password are at hand in everything that a client does, and they belong in one
place: the authorization header of its requests. This module compares two clients that differ in
nothing but the credentials. They hold the same dialogues, except for the value of that header in
every request (`Driver.make_withCredentials`). So as long as the replies are the same, all calls
end alike, and nothing but the header tells the two apart (`Driver.credentials_stay_in_the_header`).

The comparison is one of dialogues and not of runs. What a client makes of a reply is a part of
its dialogue, for all replies at once, and no run has to be looked at.
-/

namespace ServiceBroker

/-- **A request with another value in its authorization header.** -/
def Http.Request.authorizedBy (value : String) (request : Http.Request) : Http.Request :=
  { request with
    headers := request.headers.map fun (name, given) =>
      (name, if name = "Authorization" then value else given) }

/-- **A broker with other credentials.** -/
def Broker.withCredentials (broker : Broker) (username password : String) : Broker :=
  { broker with username, password }

/-- **A driver with other credentials**, and the same policy. -/
def Driver.withCredentials (driver : Driver) (username password : String) : Driver :=
  { driver with broker := driver.broker.withCredentials username password }

/-! ## Dialogues with other requests -/

namespace Dialogue

variable {α β σ : Type} (f : Http.Request → Http.Request)

/-- **A dialogue with other requests**, and the same in all else. -/
def mapRequests : Dialogue α → Dialogue α
  | .done a => .done a
  | .send request next => .send (f request) fun reply => (next reply).mapRequests
  | .look next => .look fun cancelled => (next cancelled).mapRequests
  | .wait interval next => .wait interval fun cancelled => (next cancelled).mapRequests

/-- Two dialogues one after the other have other requests if both have. -/
theorem mapRequests_bind (dialogue : Dialogue α) (g : α → Dialogue β) :
    (dialogue.bind g).mapRequests f
      = (dialogue.mapRequests f).bind fun a => (g a).mapRequests f := by
  induction dialogue with
  | done a => rfl
  | send request next ih => exact congrArg (Dialogue.send _) (funext ih)
  | look next ih => exact congrArg Dialogue.look (funext ih)
  | wait interval next ih => exact congrArg (Dialogue.wait interval) (funext ih)

/-- **The replies decide.** In a world that replies to the other requests as to these, the
dialogue comes to the same result and the same state. -/
theorem run_mapRequests {world : World σ}
    (alike : ∀ state request, world.reply state (f request) = world.reply state request)
    (dialogue : Dialogue α) (state : σ) :
    (dialogue.mapRequests f).run world state
      = let run := dialogue.run world state
        { run with requests := run.requests.map f } := by
  induction dialogue generalizing state with
  | done a => rfl
  | send request next ih =>
    show Dialogue.run world (.send (f request) fun reply => (next reply).mapRequests f) state = _
    rw [run_send, run_send, alike]
    dsimp only
    rw [ih]
    rfl
  | look next ih => exact ih (world.cancelled state) state
  | wait interval next ih =>
    exact ih (world.wait state interval).1 (world.wait state interval).2

end Dialogue

/-! ## Clients with other credentials -/

section Credentials

variable (broker : Broker) (driver : Driver) (username password : String)

namespace Broker

/-- **The headers differ in the authorization.** -/
theorem headers_withCredentials (hasBody : Bool) :
    (broker.withCredentials username password).headers hasBody
      = (broker.headers hasBody).map fun (name, given) =>
          (name, if name = "Authorization" then
            (broker.withCredentials username password).authorization else given) := by
  cases hasBody <;> rfl

/-- **A request differs in the authorization**, and its body does not. -/
theorem request_withCredentials (operation : Operation) (input : operation.Input) :
    (broker.withCredentials username password).request operation input
      = (broker.request operation input).authorizedBy
          (broker.withCredentials username password).authorization := by
  unfold request Http.Request.authorizedBy
  dsimp only
  rw [headers_withCredentials]
  rfl

/-- **The description is the same for every password.** -/
theorem description_withCredentials :
    (broker.withCredentials broker.username password).description = broker.description := rfl

end Broker

theorem Change.request_withCredentials (change : Change) :
    change.request (broker.withCredentials username password)
      = (change.request broker).authorizedBy
          (broker.withCredentials username password).authorization := by
  cases change <;> exact broker.request_withCredentials username password _ _

namespace Driver

/-- What becomes of a driver's requests with other credentials. -/
def reauthorize : Http.Request → Http.Request :=
  .authorizedBy (driver.withCredentials username password).broker.authorization

/-- The question of a poll differs in the authorization. -/
theorem pollRequest_withCredentials (tracked : TrackedOperation) :
    (driver.withCredentials username password).pollRequest tracked
      = driver.reauthorize username password (driver.pollRequest tracked) := by
  unfold pollRequest reauthorize Http.Request.authorizedBy
  dsimp only
  rw [withCredentials, Broker.headers_withCredentials]
  rfl

/-- The fetch of a binding differs in the authorization. -/
theorem fetchRequest_withCredentials (tracked : TrackedOperation) (bindingId : String) :
    (driver.withCredentials username password).fetchRequest tracked bindingId
      = driver.reauthorize username password (driver.fetchRequest tracked bindingId) := by
  unfold fetchRequest reauthorize Http.Request.authorizedBy
  dsimp only
  rw [withCredentials, Broker.headers_withCredentials]
  rfl

/-- The end of an operation that succeeded. -/
theorem succeeded_withCredentials (tracked : TrackedOperation) :
    (driver.withCredentials username password).succeeded tracked
      = (driver.succeeded tracked).mapRequests (driver.reauthorize username password) := by
  rw [succeeded_eq, succeeded_eq]
  cases tracked.creates? with
  | none => rfl
  | some bindingId =>
    dsimp only
    rw [fetchRequest_withCredentials]
    rfl

/-- What is made of an acceptance: the policy is the same. -/
theorem accepted_withCredentials (tracked : TrackedOperation) :
    (driver.withCredentials username password).accepted tracked
      = (driver.accepted tracked).mapRequests (driver.reauthorize username password) := by
  have policy : (driver.withCredentials username password).settings = driver.settings := rfl
  unfold accepted
  rw [policy]
  by_cases assumed : tracked.operation = none ∧
      driver.settings.missingToken = .assumeSucceeded
  · rw [if_pos assumed, if_pos assumed]
    exact driver.succeeded_withCredentials username password tracked
  · rw [if_neg assumed, if_neg assumed]
    rfl

theorem start_withCredentials (change : Change) :
    (driver.withCredentials username password).start change
      = (driver.start change).mapRequests (driver.reauthorize username password) := by
  have request : change.request (driver.withCredentials username password).broker
      = driver.reauthorize username password (change.request driver.broker) :=
    change.request_withCredentials driver.broker username password
  rw [start_eq, start_eq, request]
  refine congrArg (Dialogue.send _) (funext fun reply => ?_)
  dsimp only
  cases change.outcome reply with
  | error error => rfl
  | ok outcome =>
    cases outcome with
    | complete binding => rfl
    | accepted token => exact driver.accepted_withCredentials username password _

theorem poll_withCredentials (tracked : TrackedOperation) :
    (driver.withCredentials username password).poll tracked
      = (driver.poll tracked).mapRequests (driver.reauthorize username password) := by
  rw [poll_eq, poll_eq, pollRequest_withCredentials]
  refine congrArg (Dialogue.send _) (funext fun reply => ?_)
  dsimp only
  cases readAnswer tracked.question LastOperation.ofBody reply with
  | error error => cases error <;> rfl
  | ok last =>
    obtain ⟨state, description⟩ := last
    cases state with
    | inProgress => rfl
    | succeeded => exact driver.succeeded_withCredentials username password tracked
    | failed => rfl

/-- The loop, by induction on its rounds. -/
theorem goOn_withCredentials (interval : Duration) (rounds : Nat) (result : Result) :
    (driver.withCredentials username password).goOn interval rounds result
      = (driver.goOn interval rounds result).mapRequests
          (driver.reauthorize username password) := by
  obtain ⟨tracked, description, rfl⟩ | ended := inFlight_or_ended result
  · cases rounds with
    | zero =>
      refine congrArg (Dialogue.wait interval) (funext fun cancelled => ?_)
      cases cancelled <;> rfl
    | succ rounds =>
      refine congrArg (Dialogue.wait interval) (funext fun cancelled => ?_)
      cases cancelled with
      | true => rfl
      | false =>
        show Dialogue.bind _ _ = Dialogue.mapRequests _ (Dialogue.bind _ _)
        rw [Dialogue.mapRequests_bind, poll_withCredentials]
        exact congrArg _ (funext (goOn_withCredentials interval rounds))
  · rw [goOn_eq_done _ _ _ ended, goOn_eq_done _ _ _ ended]
    rfl

/-- Polling until the end. -/
theorem pollUntilTerminal_withCredentials (rounds : Nat) (interval : Duration)
    (tracked : TrackedOperation) :
    (driver.withCredentials username password).pollUntilTerminal rounds interval tracked
      = (driver.pollUntilTerminal rounds interval tracked).mapRequests
          (driver.reauthorize username password) := by
  refine congrArg Dialogue.look (funext fun cancelled => ?_)
  cases cancelled with
  | true => rfl
  | false =>
    dsimp only
    rw [if_neg Bool.false_ne_true, if_neg Bool.false_ne_true, Dialogue.mapRequests_bind,
      poll_withCredentials]
    exact congrArg _ (funext (driver.goOn_withCredentials username password interval rounds))

/-- **Every call is made alike**, up to the authorization of its requests. -/
theorem make_withCredentials (call : ClientCall) :
    (driver.withCredentials username password).make call
      = (driver.make call).mapRequests (driver.reauthorize username password) := by
  cases call with
  | ask asked =>
    rw [make_ask, make_ask]
    have request : asked.request (driver.withCredentials username password).broker
        = driver.reauthorize username password (asked.request driver.broker) :=
      driver.broker.request_withCredentials username password _ _
    rw [request]
    rfl
  | driver call =>
    unfold make
    dsimp only
    rw [Dialogue.mapRequests_bind]
    refine congrArg (Dialogue.bind · _) ?_
    cases call with
    | start change =>
      unfold dialogue
      dsimp only
      rw [Dialogue.mapRequests_bind, start_withCredentials]
      rfl
    | poll tracked =>
      unfold dialogue
      dsimp only
      rw [Dialogue.mapRequests_bind, poll_withCredentials]
      rfl
    | pollUntilTerminal rounds interval tracked =>
      exact driver.pollUntilTerminal_withCredentials username password rounds interval tracked

/-! ## Whole sessions -/

/-- **What comes of calls**, one after the other: for each, what is learned and what is sent. -/
def transcript {σ : Type} (world : Dialogue.World σ) : List ClientCall → σ →
    List (Report × List Http.Request)
  | [], _ => []
  | call :: calls, state =>
    let run := (driver.make call).run world state
    (run.result, run.requests) :: transcript world calls run.state

/-- **Two clients that are replied to alike learn the same**, by induction on the calls. -/
theorem transcript_withCredentials {σ : Type} {world : Dialogue.World σ}
    (alike : ∀ state request,
      world.reply state (driver.reauthorize username password request)
        = world.reply state request) (calls : List ClientCall) (state : σ) :
    (driver.withCredentials username password).transcript world calls state
      = (driver.transcript world calls state).map fun (report, requests) =>
          (report, requests.map (driver.reauthorize username password)) := by
  induction calls generalizing state with
  | nil => rfl
  | cons call calls ih =>
    unfold transcript
    rw [make_withCredentials, Dialogue.run_mapRequests _ alike]
    exact congrArg _ (ih _)

/-- **The credentials stay in the header.** Take two clients of the same URL and version, with the
same policy and any credentials, that make the same calls on the same script. Each call ends
alike, with the same progress, the same answer or the same error, and so the same wording of it.
The requests are the same, too, except for the value of the authorization header. And the
description of a broker is the same for every password. -/
theorem credentials_stay_in_the_header (calls : List ClientCall) (script : Script) :
    (driver.withCredentials username password).transcript Script.world calls script
      = (driver.transcript Script.world calls script).map (fun (report, requests) =>
          (report, requests.map (.authorizedBy
            (driver.withCredentials username password).broker.authorization))) ∧
    ∀ other, { driver.broker with password := other }.description
      = driver.broker.description :=
  ⟨driver.transcript_withCredentials username password (fun _ _ => rfl) calls script,
    fun other => driver.broker.description_withCredentials other⟩

end Driver

end Credentials

end ServiceBroker
