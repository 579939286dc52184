/-!
# Spans of time

A `Duration` counts nanoseconds. Timeouts of round trips are given in seconds
and may have a fraction, the intervals between polls in milliseconds.
-/

namespace ServiceBroker

/-- **A span of time.** -/
structure Duration where
  nanoseconds : Nat
deriving DecidableEq, Repr

namespace Duration

/-- How many nanoseconds a second has. -/
def perSecond : Nat := 1000000000

/-- How many nanoseconds a millisecond has. -/
def perMillisecond : Nat := 1000000

/-- A number of milliseconds. -/
def ofMilliseconds (n : Nat) : Duration := { nanoseconds := n * perMillisecond }

/-- **The longest duration**: one nanosecond less than `2^64` seconds. -/
def longest : Duration := { nanoseconds := 0x10000000000000000 * perSecond - 1 }

/-- The whole seconds of a duration. -/
def seconds (duration : Duration) : Nat := duration.nanoseconds / perSecond

/-- The nanoseconds past the whole seconds. -/
def pastSeconds (duration : Duration) : Nat := duration.nanoseconds % perSecond

end Duration

end ServiceBroker
