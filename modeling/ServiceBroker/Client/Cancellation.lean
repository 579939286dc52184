import ServiceBroker.Duration

/-!
# Cancellation tokens

A token is cancelled once and for all. Cloning a token gives another handle on
the same fate: the clones of a token, their clones and so on are one family,
and cancelling any of them cancels the family. `Tokens` keeps the family of
every token that was ever made, and which families are cancelled.

A wait watches one token until it is cancelled or a deadline has passed. It
may be woken at any time without a reason, so it looks again whenever it
wakes: `wait` is given the moments at which it wakes, each with the reading of
the clock and the tokens as they are then, and says how it ends. A timeout
that would take the clock past its last reading has no deadline, and such a
wait ends on cancellation only.
-/

namespace ServiceBroker

/-- **All tokens and their families.** -/
structure Tokens where
  /-- The family of each token, in the order the tokens were made. -/
  family : List Nat := [0]
  /-- Whether each family is cancelled. -/
  cancelled : List Bool := [false]
deriving DecidableEq, Repr

namespace Tokens

/-- The family of a token. -/
def familyOf (tokens : Tokens) (token : Nat) : Nat := tokens.family.getD token 0

/-- **Whether a token is cancelled.** -/
def isCancelled (tokens : Tokens) (token : Nat) : Bool :=
  tokens.cancelled.getD (tokens.familyOf token) false

/-- The token made last. -/
def newest (tokens : Tokens) : Nat := tokens.family.length - 1

/-- **What changes the tokens.** -/
inductive Step where
  /-- A new token with a family of its own. -/
  | new
  /-- A clone of a token, of the same family. -/
  | clone (token : Nat)
  /-- The cancellation of a token, and with it of the family. -/
  | cancel (token : Nat)
deriving DecidableEq, Repr

/-- **The tokens after a step.** -/
def after (tokens : Tokens) : Step → Tokens
  | .new =>
    { family := tokens.family ++ [tokens.cancelled.length]
      cancelled := tokens.cancelled ++ [false] }
  | .clone token => { tokens with family := tokens.family ++ [tokens.familyOf token] }
  | .cancel token =>
    { tokens with cancelled := tokens.cancelled.set (tokens.familyOf token) true }

end Tokens

/-- **A moment at which a waiter wakes.** -/
structure Moment where
  /-- The reading of the clock. -/
  now : Nat
  /-- The tokens as they are then. -/
  tokens : Tokens
deriving DecidableEq, Repr

/-- **The deadline of a wait**, if the clock can show it. The clock counts
nanoseconds up to the last reading given. -/
def deadline? (lastReading start : Nat) (timeout : Duration) : Option Nat :=
  if start + timeout.nanoseconds ≤ lastReading then some (start + timeout.nanoseconds) else none

/-- **What a waiter does when it has looked.** -/
inductive Watch where
  /-- The wait is over, with the flag it found. -/
  | over (cancelled : Bool)
  /-- Sleep for the time that remains, or without limit. -/
  | sleep (remaining : Option Nat)
deriving DecidableEq, Repr

/-- **One look.** The flag goes before the deadline, and the time that remains
is taken only before the deadline. -/
def watch (token : Nat) (deadline : Option Nat) (moment : Moment) : Watch :=
  if moment.tokens.isCancelled token then .over true
  else
    match deadline with
    | none => .sleep none
    | some deadline =>
      if deadline ≤ moment.now then .over false else .sleep (some (deadline - moment.now))

/-- **How a wait ends**: as the first look says that finds it over. A wait that
always sleeps on has no end yet. -/
def wait (token : Nat) (deadline : Option Nat) : List Moment → Option Bool
  | [] => none
  | moment :: later =>
    match watch token deadline moment with
    | .over cancelled => some cancelled
    | .sleep _ => wait token deadline later

end ServiceBroker
