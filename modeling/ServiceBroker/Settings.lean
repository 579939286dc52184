import ServiceBroker.Duration
import ServiceBroker.Json.Record

/-!
# The settings of a client

Two things about a client can be set: how long a round trip may take, and what
is made of a change that was accepted without a token to ask after it.

The time limit is a JSON number of seconds. A double is taken exactly and
rounded once, to the nearest nanosecond; an integer is rounded to a double
first. A negative number and one of `2^64` or more are no durations.
-/

namespace ServiceBroker

open Json (Record)

namespace Duration

/-- **The duration of a number of seconds**, rounded to the nearest nanosecond,
a tie going to the even one. Minus zero is no time. -/
def ofSeconds (x : Double) : Except Json.Cause Duration :=
  if x.negative ∧ x.rank ≠ 0 then .error .negativeSeconds
  else if 0x10000000000000000 * Double.unitsOfOne ≤ Double.units x.rank then .error .tooManySeconds
  else .ok { nanoseconds := roundHalfEven (Double.units x.rank * perSecond) Double.unitsOfOne }

/-- The duration of a JSON number of seconds. -/
def ofNumber : Number → Except Json.Cause Duration
  | .double x => ofSeconds x
  | .whole n =>
    match Double.ofInt? n.val with
    | some x => ofSeconds x
    | none => .error .tooManySeconds

/-- How an optional duration is read. A number that is no duration is a fault
of the record around it. -/
def optionReader : Json.Reader (Option Duration) := fun depth s =>
  match Json.optionReader Json.numberReader depth s with
  | .error fault => .error fault
  | .ok (none, rest) => .ok (none, rest)
  | .ok (some n, rest) =>
    match ofNumber n with
    | .ok duration => .ok (some duration, rest)
    | .error cause => .error (.unsettled cause rest)

end Duration

/-- **The settings of a transport.** -/
structure TransportSettings where
  /-- The longest a round trip may take, if there is a limit. -/
  timeout : Option Duration := none
deriving DecidableEq, Repr

/-- The members of the transport's settings. -/
def TransportSettings.record : Record TransportSettings where
  name := "TransportConfig"
  fields := .cons (.withDefault "timeout" Duration.optionReader none) .nil
  build := fun (timeout, ()) => { timeout }

/-- **What is made of an accepted change without a token.** -/
inductive MissingTokenPolicy where
  /-- The change stays in flight and is asked after without a token. -/
  | pollWithoutToken
  /-- The acceptance itself counts as success. -/
  | assumeSucceeded
deriving DecidableEq, Repr

namespace MissingTokenPolicy

/-- The spellings of the policies. -/
def names : List (String × MissingTokenPolicy) :=
  [("poll_without_token", .pollWithoutToken), ("assume_succeeded", .assumeSucceeded)]

/-- The spelling of a policy. -/
def name : MissingTokenPolicy → String
  | .pollWithoutToken => "poll_without_token"
  | .assumeSucceeded => "assume_succeeded"

end MissingTokenPolicy

/-- **The settings of a driver.** -/
structure DriverSettings where
  missingToken : MissingTokenPolicy := .pollWithoutToken
deriving DecidableEq, Repr

/-- The members of a driver's settings. -/
def DriverSettings.record : Record DriverSettings where
  name := "LifecycleConfig"
  fields :=
    .cons (.withDefault "missing_token" (Json.variantReader MissingTokenPolicy.names)
      .pollWithoutToken) .nil
  build := fun (missingToken, ()) => { missingToken }

end ServiceBroker
