import ServiceBroker.Call.Answer
import ServiceBroker.Call.Request
import ServiceBroker.Duration

/-!
# Dialogues

What a client does between a call and its result is a `Dialogue`: it sends a
request and goes on with the reply, looks at its cancellation token, waits, or
is done. A dialogue is data and does nothing by itself, so everything that can
be said about a client – which requests it sends, in which order, and what it
makes of the replies – is said of its dialogue, whoever answers it.

`Dialogue.run` holds a dialogue with a `World`: something with a state that
replies to requests, knows whether the token is cancelled, and lets time pass.
The run records the requests in order.
-/

namespace ServiceBroker

/-- **The reply to a request**: a response, or the failure of the round trip. -/
abbrev Reply := Except TransportFault Http.Response

/-- **What a client does**, up to its result. -/
inductive Dialogue (α : Type) where
  /-- The result. -/
  | done (result : α)
  /-- Send a request and go on with the reply. -/
  | send (request : Http.Request) (next : Reply → Dialogue α)
  /-- Go on knowing whether the token is cancelled. -/
  | look (next : Bool → Dialogue α)
  /-- Wait for an interval and go on knowing whether the token was cancelled by
  then. -/
  | wait (interval : Duration) (next : Bool → Dialogue α)

namespace Dialogue

/-- Going on with the result of a dialogue. -/
def bind {α β : Type} : Dialogue α → (α → Dialogue β) → Dialogue β
  | .done a, f => f a
  | .send request next, f => .send request fun reply => (next reply).bind f
  | .look next, f => .look fun cancelled => (next cancelled).bind f
  | .wait interval next, f => .wait interval fun cancelled => (next cancelled).bind f

instance : Monad Dialogue where
  pure := .done
  bind := .bind

/-- **What a dialogue is held with.** -/
structure World (σ : Type) where
  /-- The reply to a request, and the state after it. -/
  reply : σ → Http.Request → Reply × σ
  /-- Whether the token is cancelled. -/
  cancelled : σ → Bool
  /-- Whether the token is cancelled when a wait is over, and the state then. -/
  wait : σ → Duration → Bool × σ

/-- **What came of a dialogue.** -/
structure Run (σ α : Type) where
  result : α
  state : σ
  /-- The requests sent, in order. -/
  requests : List Http.Request

/-- **Holding a dialogue.** -/
def run {σ α : Type} (world : World σ) : Dialogue α → σ → Run σ α
  | .done a, state => { result := a, state := state, requests := [] }
  | .send request next, state =>
    let (reply, state) := world.reply state request
    let rest := (next reply).run world state
    { rest with requests := request :: rest.requests }
  | .look next, state => (next (world.cancelled state)).run world state
  | .wait interval next, state =>
    let (cancelled, state) := world.wait state interval
    (next cancelled).run world state

@[simp] theorem run_done {σ α : Type} (world : World σ) (a : α) (state : σ) :
    (Dialogue.done a).run world state = { result := a, state := state, requests := [] } := rfl

@[simp] theorem run_send {σ α : Type} (world : World σ) (request : Http.Request)
    (next : Reply → Dialogue α) (state : σ) :
    (Dialogue.send request next).run world state =
      let (reply, state) := world.reply state request
      let rest := (next reply).run world state
      { rest with requests := request :: rest.requests } := rfl

/-- **Two dialogues one after the other**: the second goes on from the result and
the state of the first, and the requests are those of both. -/
theorem run_bind {σ α β : Type} (world : World σ) (dialogue : Dialogue α)
    (f : α → Dialogue β) (state : σ) :
    (dialogue.bind f).run world state =
      let first := dialogue.run world state
      let second := (f first.result).run world first.state
      { second with requests := first.requests ++ second.requests } := by
  induction dialogue generalizing state with
  | done a => rfl
  | send request next ih => simp [Dialogue.bind, run, ih]
  | look next ih => exact ih (world.cancelled state) state
  | wait interval next ih =>
    exact ih (world.wait state interval).1 (world.wait state interval).2

end Dialogue

/-- **Calling a broker**: one request, one reply, and what the operation reads
in it. -/
def Broker.call (broker : Broker) (operation : Operation) (input : operation.Input) :
    Dialogue (Except CallError operation.Answer) :=
  .send (broker.request operation input) fun reply =>
    match reply with
    | .ok response => .done (operation.parse response)
    | .error fault => .done (.error (.transport fault))

end ServiceBroker
