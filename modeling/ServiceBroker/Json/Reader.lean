import ServiceBroker.Json.Skip

/-!
# Reading values that are expected

A `Reader` is told how many containers may still be opened and reads a value
of one kind from the start of the input. A value of another kind is a fault
that names what was seen and what was expected.

The parts of a container come one by one. `nextItem` and `nextKey` find out
whether there is one more and take the comma before it; `items` and `members`
run through all of them, handing each part to a reader. `enclosed` takes the
closing bracket, also when a fault inside is still without a place: then the
place is where reading stands after the bracket.

The way to a fault leads into a part only if the fault lies in the part's own
value. A comma or a colon that is not there is a fault of the container, and
so is a key that cannot be read, which counts as a part without a name.
-/

namespace ServiceBroker.Json

/-- **A reader of one kind of value**, given how many containers may still be
opened. -/
abbrev Reader (α : Type) := Nat → Read α

/-- How deep containers may be nested in a text. -/
def maxDepth : Nat := 127

/-- What was read, seen through a function. -/
def Read.map {α β : Type} (f : α → β) (read : Read α) : Read β := fun s =>
  match read s with
  | .ok (a, rest) => .ok (f a, rest)
  | .error fault => .error fault

/-- The same reader, its faults seen from the enclosing value. -/
def Read.under {α : Type} (step : Step) (read : Read α) : Read α := fun s =>
  match read s with
  | .ok result => .ok result
  | .error fault => .error (fault.under step)

/-- **The fault of a value of an unexpected kind.** A value that is itself
faulty is reported for that. -/
def mismatch (expected : Expected) (s : List Char) : Fault :=
  match s with
  | [] => .past .endInValue []
  | c :: rest =>
    let scalar (seen : Seen) : Except Fault (List Char) → Fault
      | .ok rest => .here (.invalidType seen expected) rest
      | .error fault => fault
    if c = 'n' then scalar .null (word ['u', 'l', 'l'] rest)
    else if c = 't' then scalar (.bool true) (word ['r', 'u', 'e'] rest)
    else if c = 'f' then scalar (.bool false) (word ['a', 'l', 's', 'e'] rest)
    else if startsNumber c then
      match readNumber s with
      | .ok (n, rest) => .here (.invalidType (.number n) expected) rest
      | .error fault => fault
    else if c = '"' then
      match stringBody rest with
      | .ok (text, rest) => .here (.invalidType (.string (String.ofList text)) expected) rest
      | .error fault => fault
    else if c = '[' then .here (.invalidType .sequence expected) s
    else if c = '{' then .here (.invalidType .map expected) s
    else .past .expectedValue s

/-! ## Containers -/

/-- **Taking the closing bracket.** -/
def close : Bracket → List Char → Except Fault (List Char)
  | .brace, s =>
    match skipSpace s with
    | [] => .error (.past .endInObject [])
    | c :: rest =>
      if c = '}' then .ok rest
      else .error (.past (if c = ',' then .trailingComma else .trailingCharacters) (c :: rest))
  | .square, s =>
    match skipSpace s with
    | [] => .error (.past .endInList [])
    | c :: rest =>
      if c = ']' then .ok rest
      else if c = ',' then
        let rest := skipSpace rest
        .error (.past (if rest.head? = some ']' then .trailingComma else .trailingCharacters) rest)
      else .error (.past .trailingCharacters (c :: rest))

/-- Where reading stands after the attempt to take the closing bracket. -/
def landing : Bracket → List Char → List Char
  | .brace, s =>
    match skipSpace s with
    | [] => []
    | c :: rest => if c = '}' then rest else c :: rest
  | .square, s =>
    match skipSpace s with
    | [] => []
    | c :: rest => if c = ']' then rest else if c = ',' then skipSpace rest else c :: rest

/-- **What stands inside a bracket, and the closing one.** -/
def enclosed {α : Type} (bracket : Bracket) (body : Read α) : Read α := fun s =>
  match body s with
  | .error fault => .error (fault.settle (landing bracket fault.rest))
  | .ok (a, rest) =>
    match close bracket rest with
    | .ok rest => .ok (a, rest)
    | .error fault => .error fault

/-- **Whether an array has one more item**, and the input from there on. The
flag tells that it would be the first. -/
def nextItem (first : Bool) : Read Bool := fun s =>
  match skipSpace s with
  | [] => .error (.past .endInList [])
  | c :: rest =>
    if c = ']' then .ok (false, c :: rest)
    else if first then .ok (true, c :: rest)
    else if c = ',' then
      match skipSpace rest with
      | [] => .error (.past .endInValue [])
      | d :: rest => if d = ']' then .error (.past .trailingComma (d :: rest))
        else .ok (true, d :: rest)
    else .error (.past .expectedCommaOrBracket (c :: rest))

/-- The items of an array from a position on, one turn per item. -/
def itemsFrom {α : Type} (read : Read α) : Nat → Nat → Read (List α)
  | 0, _, s => .error (.past .endInList s)
  | turns + 1, index, s =>
    match nextItem (index == 0) s with
    | .error fault => .error fault
    | .ok (false, rest) => .ok ([], rest)
    | .ok (true, rest) =>
      match read.under (.item index) rest with
      | .error fault => .error fault
      | .ok (item, rest) =>
        match itemsFrom read turns (index + 1) rest with
        | .error fault => .error fault
        | .ok (items, rest) => .ok (item :: items, rest)

/-- **The items of an array**, all read alike. Every turn takes a character at
least. -/
def items {α : Type} (read : Read α) : Read (List α) := fun s =>
  itemsFrom read (s.length + 1) 0 s

/-- A key after its opening quote. -/
def keyBody : Read (Option String) := Read.map (fun text => some (String.ofList text)) stringBody

/-- **Whether an object has one more member**, and its key. The flag tells that
it would be the first. -/
def nextKey (first : Bool) : Read (Option String) := fun s =>
  match skipSpace s with
  | [] => .error (.past .endInObject [])
  | c :: rest =>
    if c = '}' then .ok (none, c :: rest)
    else if first then
      if c = '"' then keyBody rest else .error (.past .keyNotString (c :: rest))
    else if c = ',' then
      match skipSpace rest with
      | [] => .error (.past .endInValue [])
      | d :: rest =>
        if d = '"' then keyBody rest
        else .error (.past (if d = '}' then .trailingComma else .keyNotString) (d :: rest))
    else .error (.past .expectedCommaOrBrace (c :: rest))

/-- The colon after a key. -/
def colon (s : List Char) : Except Fault (List Char) :=
  match skipSpace s with
  | [] => .error (.past .endInObject [])
  | c :: rest => if c = ':' then .ok rest else .error (.past .expectedColon (c :: rest))

/-- **The colon and the value of a member.** Only the value is seen through its
key. -/
def memberValue {α : Type} (key : String) (read : Read α) : Read α := fun s =>
  match colon s with
  | .error fault => .error fault
  | .ok rest => read.under (.member key) rest

/-- The members of an object, one turn per member. -/
def membersFrom {σ : Type} (take : σ → String → Read σ) : Nat → Bool → σ → Read σ
  | 0, _, _, s => .error (.past .endInObject s)
  | turns + 1, first, state, s =>
    match (nextKey first).under .unnamed s with
    | .error fault => .error fault
    | .ok (none, rest) => .ok (state, rest)
    | .ok (some key, rest) =>
      match take state key rest with
      | .error fault => .error fault
      | .ok (state, rest) => membersFrom take turns false state rest

/-- **The members of an object**: `take` is handed each key with the input after
it, colon included, and the state so far. Every turn takes a character at
least. -/
def members {σ : Type} (take : σ → String → Read σ) (state : σ) : Read σ := fun s =>
  membersFrom take (s.length + 1) true state s

/-- **Opening a container**: the input begins with its bracket, and the depth
left has to allow one more. -/
def opened {α : Type} (bracket : Bracket) (body : Reader α) : Reader α
  | 0, s => .error (.past .tooDeep s)
  | depth + 1, s => enclosed bracket (body depth) (s.drop 1)

/-! ## Any value -/

/-- **Any value.** -/
def value : Reader Json
  | depth, s =>
    match skipSpace s with
    | [] => .error (.past .endInValue [])
    | c :: rest =>
      if c = '"' then Read.map (fun text => .string (String.ofList text)) stringBody rest
      else if c = '[' then
        match depth with
        | 0 => .error (.past .tooDeep (c :: rest))
        | depth + 1 => Read.map .array (enclosed .square (items (value depth))) rest
      else if c = '{' then
        match depth with
        | 0 => .error (.past .tooDeep (c :: rest))
        | depth + 1 =>
          Read.map .object
            (enclosed .brace
              (members
                (fun object key => Read.map (put key · object) (memberValue key (value depth)))
                []))
            rest
      else if c = 'n' then (word ['u', 'l', 'l'] rest).map (.null, ·)
      else if c = 't' then (word ['r', 'u', 'e'] rest).map (.bool true, ·)
      else if c = 'f' then (word ['a', 'l', 's', 'e'] rest).map (.bool false, ·)
      else if startsNumber c then Read.map .number readNumber (c :: rest)
      else .error (.past .expectedValue (c :: rest))

/-! ## Values of one kind -/

/-- **A string.** -/
def stringReader : Reader String := fun _ s =>
  match skipSpace s with
  | [] => .error (.past .endInValue [])
  | c :: rest =>
    if c = '"' then Read.map String.ofList stringBody rest
    else .error (mismatch .string (c :: rest))

/-- **A truth value.** -/
def boolReader : Reader Bool := fun _ s =>
  match skipSpace s with
  | [] => .error (.past .endInValue [])
  | c :: rest =>
    if c = 't' then (word ['r', 'u', 'e'] rest).map (true, ·)
    else if c = 'f' then (word ['a', 'l', 's', 'e'] rest).map (false, ·)
    else .error (mismatch .boolean (c :: rest))

/-- **Nothing but `null`.** -/
def unitReader : Reader Unit := fun _ s =>
  match skipSpace s with
  | [] => .error (.past .endInValue [])
  | c :: rest =>
    if c = 'n' then (word ['u', 'l', 'l'] rest).map ((), ·)
    else .error (mismatch .unit (c :: rest))

/-- **A number.** -/
def numberReader : Reader Number := fun _ s =>
  match skipSpace s with
  | [] => .error (.past .endInValue [])
  | c :: rest =>
    if startsNumber c then readNumber (c :: rest) else .error (mismatch .double (c :: rest))

/-- **A value that may be `null`.** -/
def optionReader {α : Type} (read : Reader α) : Reader (Option α) := fun depth s =>
  match skipSpace s with
  | [] => Read.map some (read depth) []
  | c :: rest =>
    if c = 'n' then (word ['u', 'l', 'l'] rest).map (none, ·)
    else Read.map some (read depth) (c :: rest)

/-- **An array of values of one kind.** -/
def listReader {α : Type} (read : Reader α) : Reader (List α) := fun depth s =>
  match skipSpace s with
  | [] => .error (.past .endInValue [])
  | c :: rest =>
    if c = '[' then opened .square (fun depth => items (read depth)) depth (c :: rest)
    else .error (mismatch .sequence (c :: rest))

/-- **A free-form object.** -/
def objectReader : Reader Members := fun depth s =>
  match skipSpace s with
  | [] => .error (.past .endInValue [])
  | c :: rest =>
    if c = '{' then
      opened .brace
        (fun depth => members
          (fun object key => Read.map (put key · object) (memberValue key (value depth))) [])
        depth (c :: rest)
    else .error (mismatch .map (c :: rest))

/-- The variant of a name that has been read: the table gives the names and what
they stand for. -/
def variantNamed {α : Type} (table : List (String × α)) (name : String) : Read α := fun s =>
  match table.lookup name with
  | some a => .ok (a, s)
  | none => .error (.here (.unknownVariant name (table.map Prod.fst)) s)

/-- **The name of a variant**, all on its own. -/
def variantName {α : Type} (table : List (String × α)) : Reader α := fun _ s =>
  match skipSpace s with
  | [] => .error (.past .endInValue [])
  | c :: rest =>
    if c = '"' then
      match stringBody rest with
      | .error fault => .error fault
      | .ok (text, rest) => variantNamed table (String.ofList text) rest
    else .error (mismatch .variant (c :: rest))

/-- The name of a variant as the first key of an object. -/
def variantKey {α : Type} (table : List (String × α)) : Read α := fun s =>
  match nextKey true s with
  | .error fault => .error fault
  | .ok (none, rest) => .error (.past .expectedValue rest)
  | .ok (some name, rest) => variantNamed table name rest

/-- **A variant of an enumeration**: its name, or an object with the name as the
one key and `null` as its value. -/
def variantReader {α : Type} (table : List (String × α)) : Reader α := fun depth s =>
  match skipSpace s with
  | [] => .error (.past .endInValue [])
  | c :: rest =>
    if c = '{' then
      match depth with
      | 0 => .error (.past .tooDeep (c :: rest))
      | depth + 1 => do
        let (a, rest) ← variantKey table rest
        let rest ← colon rest
        let ((), rest) ← unitReader depth rest
        match skipSpace rest with
        | [] => .error (.here .endInObject [])
        | d :: rest => if d = '}' then .ok (a, rest) else .error (.here .expectedValue (d :: rest))
    else if c = '"' then variantName table depth (c :: rest)
    else .error (.past .expectedValue (c :: rest))

/-! ## Whole texts -/

/-- **Reading a whole text** as one value; only white space may follow it. -/
def decode {α : Type} (read : Reader α) (text : String) : Except ReadError α :=
  match read maxDepth text.toList with
  | .error fault => .error (.ofFault text.toList fault)
  | .ok (a, rest) =>
    match skipSpace rest with
    | [] => .ok a
    | c :: rest => .error (.ofFault text.toList (.past .trailingCharacters (c :: rest)))

end ServiceBroker.Json
