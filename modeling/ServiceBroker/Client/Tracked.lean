import ServiceBroker.Json.Record
import ServiceBroker.Operation

/-!
# Operations in flight

A change that was accepted is asked after until it has ended. What is needed
for that is a `TrackedOperation`, a value that the caller can keep as JSON and
pick up later: which change it is, on which instance or binding, of which
service and plan, and the token if the broker handed one out.

As JSON a tracked operation is one object. The kind of change is written into
the same object, as the member `kind` and for bindings `binding_id`. Reading
first takes the members of the operation's own and sets all others aside; the
kind is then looked up among those.
-/

namespace ServiceBroker

open Json (Cause Expected Fault Fields Read Seen)

/-- **A change in flight.** -/
inductive OperationKind where
  | provision
  | deprovision
  | bind (bindingId : String)
  | unbind (bindingId : String)
deriving DecidableEq, Repr

/-- **All that is needed to ask after a change.** -/
structure TrackedOperation where
  kind : OperationKind
  instanceId : String
  serviceId : String
  planId : String
  /-- The broker's token, if it handed one out. -/
  operation : Option String := none
deriving DecidableEq, Repr

namespace OperationKind

/-- Whether the change is a deletion, for which gone is the goal. -/
def isDelete : OperationKind → Bool
  | .deprovision | .unbind _ => true
  | .provision | .bind _ => false

/-- The binding that is changed, if it is one. -/
def bindingId? : OperationKind → Option String
  | .bind bindingId | .unbind bindingId => some bindingId
  | .provision | .deprovision => none

/-- The members that describe a kind. -/
def members : OperationKind → Members
  | .provision => Json.member "kind" (.string "provision")
  | .deprovision => Json.member "kind" (.string "deprovision")
  | .bind bindingId =>
    Json.member "kind" (.string "bind") ++ Json.member "binding_id" (.string bindingId)
  | .unbind bindingId =>
    Json.member "kind" (.string "unbind") ++ Json.member "binding_id" (.string bindingId)

/-- A kind as JSON. -/
def toJson (kind : OperationKind) : Json := .object kind.members

/-! ### Reading a kind -/

/-- The title of a kind in messages. -/
def title : ChangeKind → String
  | .provision => "Provision"
  | .deprovision => "Deprovision"
  | .bind => "Bind"
  | .unbind => "Unbind"

/-- How a message names a value that was set aside. -/
def seen : Json → Seen
  | .null => .null
  | .bool b => .bool b
  | .number n => .number n
  | .string s => .string s
  | .array _ => .sequence
  | .object _ => .map

/-- **A tag among values set aside**: its name, or its index. -/
def tagOf : Json → Except Cause ChangeKind
  | .string name =>
    match ChangeKind.names.lookup name with
    | some tag => .ok tag
    | none => .error (.unknownVariant name (ChangeKind.names.map Prod.fst))
  | .number (.whole n) =>
    if n.val < 0 then .error (.invalidType (.number (.whole n)) .variant)
    else
      match ChangeKind.names[n.val.toNat]? with
      | some (_, tag) => .ok tag
      | none => .error (.invalidIndex n.val ChangeKind.names.length)
  | other => .error (.invalidType (seen other) .variant)

/-- The string a member set aside has to be. -/
def stringOf : Json → Except Cause String
  | .string s => .ok s
  | other => .error (.invalidType (seen other) .string)

/-- **The binding among members set aside.** -/
def bindingIdOf (found : Option String) : Members → Except Cause String
  | [] =>
    match found with
    | some bindingId => .ok bindingId
    | none => .error (.missingField "binding_id")
  | (key, value) :: rest =>
    if key = "binding_id" then
      match found with
      | some _ => .error (.duplicateField "binding_id")
      | none =>
        match stringOf value with
        | .ok bindingId => bindingIdOf (some bindingId) rest
        | .error cause => .error cause
    else bindingIdOf found rest

/-- The kind of a tag and the members beside it. -/
def ofMembers (tag : ChangeKind) (members : Members) : Except Cause OperationKind :=
  match tag with
  | .provision => .ok .provision
  | .deprovision => .ok .deprovision
  | .bind => (bindingIdOf none members).map .bind
  | .unbind => (bindingIdOf none members).map .unbind

/-- The tag among members set aside, and the members beside it. -/
def splitTag (found : Option ChangeKind) : Members → Except Cause (ChangeKind × Members)
  | [] =>
    match found with
    | some tag => .ok (tag, [])
    | none => .error (.missingField "kind")
  | (key, value) :: rest =>
    if key = "kind" then
      match found with
      | some _ => .error (.duplicateField "kind")
      | none =>
        match tagOf value with
        | .ok tag => splitTag (some tag) rest
        | .error cause => .error cause
    else
      match splitTag found rest with
      | .ok (tag, others) => .ok (tag, (key, value) :: others)
      | .error cause => .error cause

/-- **The kind among members set aside.** -/
def ofAside (members : Members) : Except Cause OperationKind :=
  match splitTag none members with
  | .ok (tag, others) => ofMembers tag others
  | .error cause => .error cause

/-- What a message says of surplus items after a tag. -/
def surplus (count : Nat) : String :=
  toString count ++ (if count = 1 then " element in sequence" else " elements in sequence")

/-- The kind of a tag and the items after it in an array. -/
def ofItems (tag : ChangeKind) (items : List Json) : Except Cause OperationKind :=
  let named (make : String → OperationKind) : Except Cause OperationKind :=
    match items with
    | [] =>
      .error (.invalidLength 0
        ("struct variant OperationKind::" ++ title tag ++ " with 1 element"))
    | item :: rest =>
      match stringOf item with
      | .error cause => .error cause
      | .ok bindingId =>
        if rest.isEmpty then .ok (make bindingId)
        else .error (.invalidLength items.length (surplus 1))
  let bare (kind : OperationKind) : Except Cause OperationKind :=
    if items.isEmpty then .ok kind else .error (.invalidLength items.length (surplus 0))
  match tag with
  | .provision => bare .provision
  | .deprovision => bare .deprovision
  | .bind => named .bind
  | .unbind => named .unbind

/-- What was set aside beside a tag: members of an object or items of an array. -/
inductive Aside where
  | members (members : Members)
  | items (items : List Json)

/-- The members of a kind's own object, up to its closing brace. -/
def objectBody : Json.Reader (ChangeKind × Aside) := fun depth s =>
  let take : Option ChangeKind × Members → String → Read (Option ChangeKind × Members) :=
    fun (tag, others) key =>
      if key = "kind" then
        match tag with
        | some _ => fun s => .error (.unsettled (.duplicateField key) s)
        | none =>
          Read.map (fun tag => (some tag, others))
            (Json.memberValue key (Json.variantName ChangeKind.names depth))
      else
        Read.map (fun v => (tag, others ++ [(key, v)])) (Json.memberValue key (Json.value depth))
  match Json.members take (none, []) s with
  | .error fault => .error fault
  | .ok ((some tag, others), rest) => .ok ((tag, .members others), rest)
  | .ok ((none, _), rest) => .error (.unsettled (.missingField "kind") rest)

/-- The items of a kind's own array, up to its closing bracket. -/
def sequenceBody : Json.Reader (ChangeKind × Aside) := fun depth s =>
  match Json.nextItem true s with
  | .error fault => .error fault
  | .ok (false, rest) => .error (.unsettled (.missingField "kind") rest)
  | .ok (true, rest) =>
    match Json.variantName ChangeKind.names depth rest with
    | .error fault => .error fault
    | .ok (tag, rest) =>
      Read.map (fun items => (tag, .items items))
        (Json.itemsFrom (Json.value depth) (rest.length + 1) 1) rest

/-- **A kind on its own**: an object with a tag, or an array that begins with
one. What stands beside the tag is looked at after the bracket is closed, so a
fault in it has no place. -/
def reader : Json.Reader OperationKind := fun depth s =>
  let finish : Except Fault ((ChangeKind × Aside) × List Char) →
      Except Fault (OperationKind × List Char)
    | .error fault => .error fault
    | .ok ((tag, aside), rest) =>
      let kind := match aside with
        | .members others => ofMembers tag others
        | .items items => ofItems tag items
      match kind with
      | .ok kind => .ok (kind, rest)
      | .error cause => .error (.unsettled cause rest)
  match Json.skipSpace s with
  | [] => .error (.past .endInValue [])
  | c :: rest =>
    if c = '{' then finish (Json.opened .brace objectBody depth (c :: rest))
    else if c = '[' then finish (Json.opened .square sequenceBody depth (c :: rest))
    else .error (Json.mismatch (.tagged "OperationKind") (c :: rest))

end OperationKind

namespace TrackedOperation

/-- A tracked operation as JSON. -/
def toJson (tracked : TrackedOperation) : Json :=
  .object <|
    tracked.kind.members ++
    Json.member "instance_id" (.string tracked.instanceId) ++
    Json.member "service_id" (.string tracked.serviceId) ++
    Json.member "plan_id" (.string tracked.planId) ++
    Json.member? "operation" (tracked.operation.map .string)

/-- The members of the operation's own. -/
def fields :
    Fields (String × String × String × Option String × Unit)
      (Option String × Option String × Option String × Option (Option String) × Unit) :=
  .cons (.required "instance_id" Json.stringReader) <|
  .cons (.required "service_id" Json.stringReader) <|
  .cons (.required "plan_id" Json.stringReader) <|
  .cons (.optional "operation" Json.stringReader) .nil

/-- A member of another key is set aside. -/
def setAside (depth : Nat) (aside : Members) (key : String) : Read Members :=
  Read.map (fun v => aside ++ [(key, v)]) (Json.memberValue key (Json.value depth))

/-- The members of a tracked operation, up to the closing brace. -/
def objectBody : Json.Reader TrackedOperation := fun depth s =>
  match fields.object setAside [] depth s with
  | .error fault => .error fault
  | .ok (((instanceId, serviceId, planId, operation, ()), aside), rest) =>
    match OperationKind.ofAside aside with
    | .ok kind => .ok ({ kind, instanceId, serviceId, planId, operation }, rest)
    | .error cause => .error (.unsettled cause rest)

/-- **A tracked operation**, from an object. -/
def reader : Json.Reader TrackedOperation := fun depth s =>
  match Json.skipSpace s with
  | [] => .error (.past .endInValue [])
  | c :: rest =>
    if c = '{' then Json.opened .brace objectBody depth (c :: rest)
    else .error (Json.mismatch (.record "TrackedOperation") (c :: rest))

end TrackedOperation

end ServiceBroker
