import ServiceBroker.Client.Tracked
import ServiceBroker.Message.Response

/-!
# Progress

Every step of a driver tells how far a change has come. It is complete if the
broker made it at once; after an acceptance it is in flight until it has
succeeded or failed. Only what is in flight has to be kept and asked after.
-/

namespace ServiceBroker

/-- **Why an operation failed.** -/
inductive Failure where
  /-- The broker reported it. -/
  | broker (description : Option String)
  /-- What was to be created is gone. -/
  | gone
deriving DecidableEq, Repr

/-- **How far a change has come.** -/
inductive Progress where
  /-- Made at once. -/
  | complete (binding : Option Binding)
  /-- Accepted and not ended yet. -/
  | inFlight (tracked : TrackedOperation) (description : Option String)
  /-- Ended well. -/
  | succeeded (binding : Option Binding)
  /-- Ended badly. -/
  | failed (failure : Failure)

namespace Progress

/-- The name of the state. -/
def state : Progress → String
  | .complete _ => "complete"
  | .inFlight _ _ => "in_flight"
  | .succeeded _ => "succeeded"
  | .failed _ => "failed"

/-- **Whether the change has ended.** -/
def isTerminal : Progress → Bool
  | .inFlight _ _ => false
  | .complete _ | .succeeded _ | .failed _ => true

/-- The credentials of a binding that was created. -/
def credentials? : Progress → Option Members
  | .complete binding | .succeeded binding => binding.map (·.credentials)
  | .inFlight _ _ | .failed _ => none

/-- The operation to keep, while it is in flight. -/
def tracked? : Progress → Option TrackedOperation
  | .inFlight tracked _ => some tracked
  | .complete _ | .succeeded _ | .failed _ => none

end Progress

end ServiceBroker
