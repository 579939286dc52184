import Mathlib.Logic.Function.Basic
import ServiceBroker.Loopback
import ServiceBroker.Proofs.History

/-!
# Many calls at once

A run holds one dialogue from its beginning to its end, with nobody else around. Here many
dialogues are held with one mock broker at the same time. A dialogue takes its steps one by
one (`Dialogue.step`), with at most one request to a step, and between two of its steps
anything may happen: other dialogues take steps, and requests of strangers are served.

A `Crowd` is where all the dialogues stand, with the state that they share and the requests
that they have sent. A schedule says who moves next, and every interleaving of the dialogues
and of other requests, request by request, is a schedule.
-/

namespace ServiceBroker

namespace Dialogue

variable {σ α : Type}

/-- The request that a dialogue is about to send, if it is about to send one. -/
def request? : Dialogue α → Option Http.Request
  | .send request _ => some request
  | .done _ | .look _ | .wait _ _ => none

/-- **One step of a dialogue**: what it goes on with, and the state then. -/
def step (world : World σ) : Dialogue α → σ → Dialogue α × σ
  | .done a, state => (.done a, state)
  | .send request next, state =>
    let (reply, state) := world.reply state request
    (next reply, state)
  | .look next, state => (next (world.cancelled state), state)
  | .wait interval next, state =>
    let (cancelled, state) := world.wait state interval
    (next cancelled, state)

theorem step_send (world : World σ) (request : Http.Request) (next : Reply → Dialogue α)
    (state : σ) :
    (Dialogue.send request next).step world state
      = (next (world.reply state request).1, (world.reply state request).2) := rfl

/-- **A dialogue that is held alone takes its steps one after the other.** -/
theorem run_step (world : World σ) (dialogue : Dialogue α) (state : σ) :
    dialogue.run world state =
      let (next, after) := dialogue.step world state
      let rest := next.run world after
      { rest with requests := dialogue.request?.toList ++ rest.requests } := by
  cases dialogue <;> rfl

end Dialogue

/-- **A request of a stranger**: the broker serves it, and the next token has the next random
part. -/
def Loopback.receive (loopback : Loopback) (state : Loopback.State) (request : Mock.Request) :
    Loopback.State :=
  { state with
    store := loopback.settings.next { random := loopback.random state.served, request } state.store
    served := state.served + 1 }

/-- **What happens next**, where `ι` names the calls that are being made. -/
inductive Move (ι : Type) where
  /-- A call takes its next step. -/
  | call (who : ι)
  /-- A request of someone else is served. -/
  | other (request : Mock.Request)
deriving DecidableEq

/-- **Where many calls stand** that are made to one broker. -/
structure Crowd (ι α : Type) where
  /-- What is left of each call. -/
  dialogue : ι → Dialogue α
  state : Loopback.State
  /-- The requests of the calls, in the order in which they were sent. -/
  sent : List (ι × Http.Request) := []

namespace Crowd

variable {ι α : Type} [DecidableEq ι] (loopback : Loopback)

/-- **One move.** -/
def move (crowd : Crowd ι α) : Move ι → Crowd ι α
  | .call who =>
    let dialogue := crowd.dialogue who
    let (next, state) := dialogue.step loopback.world crowd.state
    { dialogue := Function.update crowd.dialogue who next
      state := state
      sent := crowd.sent ++ dialogue.request?.toList.map (who, ·) }
  | .other request => { crowd with state := loopback.receive crowd.state request }

/-- **The moves of a schedule**, in order. -/
def after (crowd : Crowd ι α) : List (Move ι) → Crowd ι α
  | [] => crowd
  | move :: rest => (crowd.move loopback move).after rest

variable {loopback}

/-- **What every move keeps holds after a schedule.** What is kept may depend on the moves that
were made before. -/
theorem after_induction {P : List (Move ι) → Crowd ι α → Prop} {schedule : List (Move ι)}
    (step : ∀ before crowd, ∀ move ∈ schedule, P before crowd →
      P (before ++ [move]) (crowd.move loopback move))
    {before : List (Move ι)} {crowd : Crowd ι α} (start : P before crowd) :
    P (before ++ schedule) (crowd.after loopback schedule) := by
  induction schedule generalizing before crowd with
  | nil => exact (List.append_nil before).symm ▸ start
  | cons move rest ih =>
    have moved := step before crowd move (.head _) start
    have rested := ih (fun before crowd move mem => step before crowd move (.tail _ mem)) moved
    rwa [List.append_assoc] at rested

end Crowd

end ServiceBroker
