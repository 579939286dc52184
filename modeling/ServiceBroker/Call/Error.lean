import ServiceBroker.Json.Fault
import ServiceBroker.Operation

/-!
# How a call can fail

A round trip that did not come about is passed on as it is. Of the answers
that are no success, two have a meaning to callers: the resource is gone, and
a binding exists with other attributes. All others keep the status and the
body, with the broker's error object if the body is one. An answer that counts
as a success but has a body that cannot be read is malformed.
-/

namespace ServiceBroker

/-- **Why there was no round trip.** -/
inductive TransportFault where
  /-- The HTTP connection failed. -/
  | http (detail : String)
  /-- Another transport gave up. -/
  | other (detail : String)
deriving DecidableEq, Repr

/-- The wording of a transport's failure. -/
def TransportFault.message : TransportFault → String
  | .http detail => "HTTP transport failed: " ++ detail
  | .other detail => "transport failed: " ++ detail

/-- **Why a call failed.** -/
inductive CallError where
  | transport (fault : TransportFault)
  /-- The instance or binding no longer exists. -/
  | gone (operation : Operation)
  /-- A binding of this identifier exists with other attributes. -/
  | conflict (operation : Operation) (body : String)
  /-- Any other answer that is no success. -/
  | failed (operation : Operation) (status : Nat) (body : String)
      (code description : Option String)
  /-- A success whose body cannot be read. -/
  | malformed (operation : Operation) (source : Json.ReadError)

namespace CallError

/-- **The wording of a failed call.** -/
def message : CallError → String
  | .transport fault => fault.message
  | .gone operation => operation.name ++ ": resource is gone"
  | .conflict operation body => operation.name ++ ": conflict: " ++ body
  | .failed operation status body _ _ =>
    operation.name ++ " failed with HTTP " ++ toString status ++ ": " ++ body
  | .malformed operation source =>
    operation.name ++ ": malformed response body: " ++ source.message

/-- The operation that failed, unless the transport did. -/
def operation? : CallError → Option Operation
  | .transport _ => none
  | .gone operation | .conflict operation _ | .failed operation _ _ _ _
  | .malformed operation _ => some operation

/-- **The status of the answer**, if the failure came from one. -/
def status? : CallError → Option Nat
  | .gone _ => some 410
  | .conflict _ _ => some 409
  | .failed _ status _ _ _ => some status
  | .transport _ | .malformed _ _ => none

/-- Whether the resource is gone. -/
def isGone : CallError → Bool
  | .gone _ => true
  | _ => false

/-- Whether another binding is in the way. -/
def isConflict : CallError → Bool
  | .conflict _ _ => true
  | _ => false

end CallError

end ServiceBroker
