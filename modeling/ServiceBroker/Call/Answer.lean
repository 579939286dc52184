import ServiceBroker.Call.Error
import ServiceBroker.Http
import ServiceBroker.Message.Catalog
import ServiceBroker.Message.Response
import ServiceBroker.Text.Blank

/-!
# The answer to a call

What a status means depends on the operation. `classify` sorts an answer: it
is complete, accepted for later, or a failure. `Operation.parse` then reads the
body where the answer carries a result, into the type of the operation
(`Operation.Answer`).

A blank body counts as the empty form of the body expected, except for the
state of a last operation, which has none. Deleting something that is gone is
complete.
-/

namespace ServiceBroker

/-- **The result of an operation.** -/
abbrev Operation.Answer : Operation → Type
  | .catalog => Catalog
  | .provision => Outcome Provisioned
  | .deprovision => Outcome Unit
  | .getInstance => InstanceDetails
  | .instanceLastOperation => LastOperation
  | .bind => Outcome Binding
  | .unbind => Outcome Unit
  | .getBinding => Binding
  | .bindingLastOperation => LastOperation

/-- **A body as a value**, any text that cannot be read being malformed. -/
def readBody {α : Type} (operation : Operation) (reader : Json.Reader α) (body : String) :
    Except CallError α :=
  match Json.decode reader body with
  | .ok a => .ok a
  | .error source => .error (.malformed operation source)

/-- **A body as a value**, a blank one being the empty form. -/
def readBodyOr {α : Type} (empty : α) (operation : Operation) (reader : Json.Reader α)
    (body : String) : Except CallError α :=
  if Text.isBlank body then .ok empty else readBody operation reader body

/-- **A failure without a meaning of its own**, with the broker's error object if
the body is one. -/
def failure (operation : Operation) (status : Nat) (body : String) : CallError :=
  match Json.decode ErrorBody.record.read body with
  | .ok error => .failed operation status body error.code error.description
  | .error _ => .failed operation status body none none

/-- The outcome of a change that was accepted; an empty token is none. -/
def acceptance (operation : Operation) (body : String) : Except CallError (Outcome Unit) :=
  match readBodyOr {} operation AcceptedBody.record.read body with
  | .ok accepted => .ok (.accepted (accepted.operation.filter (· ≠ "")))
  | .error error => .error error

/-- **Whether a status completes an operation.** Creating something may be
answered by 201 as well as 200. -/
def completes (operation : Operation) (status : Nat) : Bool :=
  match operation with
  | .provision | .bind => status == 200 || status == 201
  | _ => status == 200

/-- **Sorting an answer.** Gone goes first, then a conflict of bindings, then
acceptance, then completion; all else is a failure. -/
def classify (operation : Operation) (response : Http.Response) :
    Except CallError (Outcome Unit) :=
  if response.status = 410 ∧ operation.targetsResource then .error (.gone operation)
  else if response.status = 409 ∧ operation = .bind then
    .error (.conflict operation response.body)
  else if response.status = 202 ∧ operation.acceptsIncomplete then
    acceptance operation response.body
  else if completes operation response.status then .ok (.complete ())
  else .error (failure operation response.status response.body)

/-- The answer to an operation that creates: a complete one has a result in its
body. -/
def creation {α : Type} (empty : α) (operation : Operation) (reader : Json.Reader α)
    (response : Http.Response) : Except CallError (Outcome α) :=
  match classify operation response with
  | .error error => .error error
  | .ok (.accepted token) => .ok (.accepted token)
  | .ok (.complete ()) =>
    match readBodyOr empty operation reader response.body with
    | .ok a => .ok (.complete a)
    | .error error => .error error

/-- **The answer to an operation that deletes**: gone is complete. -/
def deletion (operation : Operation) (response : Http.Response) :
    Except CallError (Outcome Unit) :=
  match classify operation response with
  | .error (.gone _) => .ok (.complete ())
  | result => result

/-- The answer to an operation that reads something with an empty form. -/
def reading {α : Type} (empty : α) (operation : Operation) (reader : Json.Reader α)
    (response : Http.Response) : Except CallError α :=
  match classify operation response with
  | .error error => .error error
  | .ok _ => readBodyOr empty operation reader response.body

/-- The answer to a poll, which has no empty form. -/
def polled (operation : Operation) (response : Http.Response) : Except CallError LastOperation :=
  match classify operation response with
  | .error error => .error error
  | .ok _ => readBody operation LastOperation.record.read response.body

/-- **Reading the answer to an operation.** -/
def Operation.parse : (operation : Operation) → Http.Response → Except CallError operation.Answer
  | .catalog => reading {} .catalog Catalog.record.read
  | .provision => creation {} .provision Provisioned.record.read
  | .deprovision => deletion .deprovision
  | .getInstance => reading {} .getInstance InstanceDetails.record.read
  | .instanceLastOperation => polled .instanceLastOperation
  | .bind => creation {} .bind Binding.record.read
  | .unbind => deletion .unbind
  | .getBinding => reading {} .getBinding Binding.record.read
  | .bindingLastOperation => polled .bindingLastOperation

end ServiceBroker
