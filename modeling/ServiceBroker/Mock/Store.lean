import ServiceBroker.Http
import ServiceBroker.Mock.Body
import ServiceBroker.Mock.Settings
import ServiceBroker.Operation
import ServiceBroker.Table

/-!
# The store of the mock broker

The store holds the instances, the bindings, and for an instance or binding
the one operation that is in flight on it, if any. An instance or binding is
stored from the moment its creation is accepted, and until its deletion has
finished.

An operation in flight has a token and a number of polls for which it is
still in progress. The poll after those finishes it, and finishing a deletion
is what removes its target; an instance takes its bindings with it.
-/

namespace ServiceBroker.Mock

/-- **What an operation works on.** -/
inductive Target where
  | serviceInstance (instanceId : String)
  | serviceBinding (instanceId bindingId : String)
deriving DecidableEq, Repr

/-- **An operation in flight.** -/
structure Pending where
  kind : ChangeKind
  token : String
  /-- For how many polls it is still in progress. -/
  remaining : Nat
deriving DecidableEq, Repr

/-- **The store.** -/
structure Store where
  instances : Table String ProvisionBody := {}
  /-- The bindings, by instance and binding. -/
  bindings : Table (String × String) BindBody := {}
  operations : Table Target Pending := {}

/-- **An answer**: a status and a JSON body. -/
structure Answer where
  status : Nat
  body : Json

namespace Answer

/-- An answer with an empty object. -/
def bare (status : Nat) : Answer := { status := status, body := .object [] }

/-- **An answer that reports an error.** -/
def error (status : Nat) (code description : String) : Answer :=
  { status := status
    body := .object [("error", .string code), ("description", .string description)] }

/-- The target does not exist any more. -/
def gone : Answer := bare 410

/-- The last operation succeeded. -/
def succeeded : Answer := { status := 200, body := .object [("state", .string "succeeded")] }

/-- The last operation is still in progress. -/
def inProgress (kind : ChangeKind) : Answer where
  status := 200
  body := .object
    [("state", .string "in progress"), ("description", .string (kind.name ++ " in progress"))]

end Answer

namespace Store

/-- **Whether a target is stored.** -/
def holds (store : Store) : Target → Bool
  | .serviceInstance i => store.instances.contains i
  | .serviceBinding i b => store.bindings.contains (i, b)

/-- **Beginning an operation.** It takes the place of the one in flight on the
same target, if there is one. -/
def begin (store : Store) (target : Target) (kind : ChangeKind) (token : String) (polls : Nat) :
    Store :=
  { store with
    operations := store.operations.insert target { kind, token, remaining := polls } }

/-- Whether an operation of a kind is in flight on a target. -/
def inFlight (store : Store) (target : Target) (kind : ChangeKind) : Bool :=
  match store.operations.get? target with
  | some pending => pending.kind == kind
  | none => false

/-- **Removing an instance** and all its bindings. -/
def removeInstance (store : Store) (instanceId : String) : Store :=
  { store with
    instances := store.instances.erase instanceId
    bindings := store.bindings.keep (·.1 ≠ instanceId) }

/-- Removing a binding. -/
def removeBinding (store : Store) (instanceId bindingId : String) : Store :=
  { store with bindings := store.bindings.erase (instanceId, bindingId) }

/-- **Finishing an operation**: it is no longer in flight, and a deletion removes
its target. -/
def finish (store : Store) (target : Target) (kind : ChangeKind) : Store :=
  let store := { store with operations := store.operations.erase target }
  match kind, target with
  | .deprovision, .serviceInstance i | .deprovision, .serviceBinding i _ => store.removeInstance i
  | .unbind, .serviceBinding i b => store.removeBinding i b
  | .unbind, .serviceInstance _ | .provision, _ | .bind, _ => store

/-- **Polling the last operation of a target.** A token has to be that of the
operation in flight; without one, whatever is in flight is polled. When
nothing is, the last operation succeeded if the target is stored, and the
target is gone if it is not. -/
def poll (store : Store) (target : Target) (token : Option String) : Answer × Store :=
  match store.operations.get? target with
  | none => (if store.holds target then .succeeded else .gone, store)
  | some pending =>
    if token.isSome ∧ token ≠ some pending.token then
      (.error 400 "UnknownOperation" "operation token does not match", store)
    else
      match pending.remaining with
      | remaining + 1 =>
        (.inProgress pending.kind,
          { store with
            operations := store.operations.insert target { pending with remaining } })
      | 0 => (.succeeded, store.finish target pending.kind)

end Store

end ServiceBroker.Mock
