import ServiceBroker.Json.Reader

/-!
# Records

A record is an object whose members are known in advance. A `Field` says how
a member is called, how it is read, and what stands in for it when it is
missing; `Fields` lists them in order and gives the record as nested pairs,
which `Record.build` turns into the type wanted.

Reading an object fills a *draft*, one slot per field, in whatever order the
members come. A known member that comes twice is a fault, an unknown one is
handed to the caller, and when the object has ended the first field left
without a value is a fault. A record may also be written as an array of its
fields in order, in which the last ones may be missing if their fields say so.
-/

namespace ServiceBroker.Json

/-- **A member of a record.** -/
structure Field (α : Type) where
  /-- The key. -/
  name : String
  /-- How the value is read. -/
  read : Reader α
  /-- What a missing member stands for, if it may be missing. -/
  absent : Option α
  /-- What a field stands for that an array ends before, if it may. -/
  short : Option α

namespace Field

/-- A field that has to be there. -/
def required {α : Type} (name : String) (read : Reader α) : Field α :=
  { name := name, read := read, absent := none, short := none }

/-- A field that may be missing and then has a value of its own. -/
def withDefault {α : Type} (name : String) (read : Reader α) (value : α) : Field α :=
  { name := name, read := read, absent := some value, short := some value }

/-- A field that may be missing or `null`. -/
def optional {α : Type} (name : String) (read : Reader α) : Field (Option α) :=
  withDefault name (optionReader read) none

/-- A field that may be missing or `null` in an object but not be left out of
an array. -/
def nullable {α : Type} (name : String) (read : Reader α) : Field (Option α) :=
  { name := name, read := optionReader read, absent := some none, short := none }

end Field

/-- **The fields of a record**, in order. The first type is that of the record
as nested pairs, the second that of a draft of it. -/
inductive Fields : Type → Type → Type 1 where
  | nil : Fields Unit Unit
  | cons {α τ δ : Type} (head : Field α) (tail : Fields τ δ) : Fields (α × τ) (Option α × δ)

namespace Fields

/-- How many fields there are. -/
def size : {τ δ : Type} → Fields τ δ → Nat
  | _, _, .nil => 0
  | _, _, .cons _ tail => tail.size + 1

/-- The keys, in order. -/
def names : {τ δ : Type} → Fields τ δ → List String
  | _, _, .nil => []
  | _, _, .cons head tail => head.name :: tail.names

/-- **The empty draft.** -/
def blank : {τ δ : Type} → Fields τ δ → δ
  | _, _, .nil => ()
  | _, _, .cons _ tail => (none, tail.blank)

/-- **How a member fills a draft**, if its key is a field's. A second member of
one key is a fault of the whole record. -/
def fill : {τ δ : Type} → Fields τ δ → Nat → δ → String → Option (Read δ)
  | _, _, .nil, _, _, _ => none
  | _, _, .cons head tail, depth, (slot, slots), key =>
    if key = head.name then
      some fun s =>
        match slot with
        | some _ => .error (.unsettled (.duplicateField key) s)
        | none => Read.map (fun a => (some a, slots)) (memberValue key (head.read depth)) s
    else
      (tail.fill depth slots key).map fun read => Read.map (slot, ·) read

/-- **The record of a draft**, or its first field without a value. -/
def finish : {τ δ : Type} → Fields τ δ → δ → Except Cause τ
  | _, _, .nil, _ => .ok ()
  | _, _, .cons head tail, (slot, slots) =>
    match slot.or head.absent with
    | none => .error (.missingField head.name)
    | some a =>
      match tail.finish slots with
      | .error cause => .error cause
      | .ok rest => .ok (a, rest)

/-- **The members of a record** inside its braces, up to the closing one.
Members of unknown key go to `other`, with a state of its own. -/
def object {τ δ σ : Type} (fields : Fields τ δ) (other : Nat → σ → String → Read σ) (state : σ) :
    Reader (τ × σ) := fun depth s =>
  let take : δ × σ → String → Read (δ × σ) := fun (draft, state) key =>
    match fields.fill depth draft key with
    | some read => Read.map (·, state) read
    | none => Read.map (draft, ·) (other depth state key)
  match members take (fields.blank, state) s with
  | .error fault => .error fault
  | .ok ((draft, state), rest) =>
    match fields.finish draft with
    | .error cause => .error (.unsettled cause rest)
    | .ok record => .ok ((record, state), rest)

/-- **The fields of a record** inside square brackets, from a position on. -/
def sequence : {τ δ : Type} → Fields τ δ → String → Nat → Reader τ
  | _, _, .nil, _, _, _, s => .ok ((), s)
  | _, _, .cons head tail, whole, index, depth, s =>
    match nextItem (index == 0) s with
    | .error fault => .error fault
    | .ok (more, rest) =>
      let first : Except Fault (_ × List Char) :=
        if more then (head.read depth).under (.item index) rest
        else
          match head.short with
          | some a => .ok (a, rest)
          | none => .error (.unsettled (.invalidLength index whole) rest)
      match first with
      | .error fault => .error fault
      | .ok (a, rest) => Read.map (a, ·) (tail.sequence whole (index + 1) depth) rest

end Fields

/-- **A record type**: its name, its fields, and the value they make. -/
structure Record (α : Type) where
  {τ : Type}
  {δ : Type}
  /-- The name that messages give it. -/
  name : String
  fields : Fields τ δ
  build : τ → α

namespace Record

/-- What a message says a record's array should have been. -/
def whole {α : Type} (record : Record α) : String :=
  "struct " ++ record.name ++ " with " ++ toString record.fields.size
    ++ (if record.fields.size = 1 then " element" else " elements")

/-- A member of unknown key is skipped. -/
def skipMember (_depth : Nat) (_state : Unit) (key : String) : Read Unit :=
  memberValue key fun s => (skipValue s).map ((), ·)

/-- **A record**, from an object or from an array of its fields. -/
def read {α : Type} (record : Record α) : Reader α := fun depth s =>
  match skipSpace s with
  | [] => .error (.past .endInValue [])
  | c :: rest =>
    if c = '{' then
      opened .brace
        (fun depth =>
          Read.map (fun (fields, ()) => record.build fields)
            (record.fields.object skipMember () depth))
        depth (c :: rest)
    else if c = '[' then
      opened .square
        (fun depth => Read.map record.build (record.fields.sequence record.whole 0 depth))
        depth (c :: rest)
    else .error (mismatch (.record record.name) (c :: rest))

end Record

/-! ## Writing records -/

/-- A member that is always written. -/
def member (key : String) (value : Json) : Members := [(key, value)]

/-- A member that is written only when there is a value. -/
def member? (key : String) (value : Option Json) : Members := (value.map fun v => (key, v)).toList

/-- A string, or `null` when there is none. -/
def ofOption (value : Option String) : Json := (value.map Json.string).getD .null

end ServiceBroker.Json
