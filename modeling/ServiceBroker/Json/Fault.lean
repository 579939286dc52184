import ServiceBroker.Json.Printer

/-!
# What can be wrong with a JSON text

A reader that is told what to expect stops at the first fault it meets. A
`Fault` has a `Cause`, the input that was left, and the trail of members and
items that leads to it. The causes fall into three categories: the text is no
JSON (`syntax`), it ends too early (`eof`), or it is JSON of another shape
than asked for (`data`).

A fault of the text points at a byte, mostly the one after the offending
character. A fault of the shape often becomes clear only when a whole object
has been read – a field is missing – and then it has no place of its own:
`Fault.settle` gives it the place where the enclosing bracket closes. A fault
that nothing encloses keeps none.

Places are counted at the end, from the text and the input that was left
(`Place.of`): lines from one, and within a line the bytes since the last line
feed.
-/

namespace ServiceBroker.Json

/-- **What stands in a text** where something else was expected. -/
inductive Seen where
  | null
  | bool (b : Bool)
  | number (n : Number)
  | string (s : String)
  | map
  | sequence

/-- **What a reader expects.** -/
inductive Expected where
  | string
  | boolean
  | double
  | unit
  | map
  | sequence
  /-- One of an enumeration's names. -/
  | variant
  /-- A record, by its name. -/
  | record (name : String)
  /-- An enumeration whose variants carry their name in a member. -/
  | tagged (name : String)

/-- **The cause of a fault.** -/
inductive Cause where
  -- the text is no JSON
  | expectedValue
  | expectedColon
  | expectedCommaOrBracket
  | expectedCommaOrBrace
  | expectedWord
  | trailingComma
  | trailingCharacters
  | keyNotString
  | invalidNumber
  | numberOutOfRange
  | invalidEscape
  | controlCharacter
  | loneSurrogate
  | unfinishedSurrogate
  | tooDeep
  -- the text ends too early
  | endInValue
  | endInString
  | endInList
  | endInObject
  -- the value has another shape
  | invalidType (seen : Seen) (expected : Expected)
  /-- An array ends after `length` items. -/
  | invalidLength (length : Nat) (expected : String)
  /-- An index that names no variant of `count`. -/
  | invalidIndex (index : Int) (count : Nat)
  | unknownVariant (found : String) (known : List String)
  | missingField (name : String)
  | duplicateField (name : String)
  | negativeSeconds
  | tooManySeconds

/-- **The three categories of causes.** -/
inductive Category where
  | syntactic
  | eof
  | data
deriving DecidableEq, Repr

/-- The category of a cause. -/
def Cause.category : Cause → Category
  | .expectedValue | .expectedColon | .expectedCommaOrBracket | .expectedCommaOrBrace
  | .expectedWord | .trailingComma | .trailingCharacters | .keyNotString | .invalidNumber
  | .numberOutOfRange | .invalidEscape | .controlCharacter | .loneSurrogate
  | .unfinishedSurrogate | .tooDeep => .syntactic
  | .endInValue | .endInString | .endInList | .endInObject => .eof
  | .invalidType _ _ | .invalidLength _ _ | .invalidIndex _ _ | .unknownVariant _ _
  | .missingField _ | .duplicateField _ | .negativeSeconds | .tooManySeconds => .data

/-- A text between backquotes. -/
def ticked (text : String) : String := "`" ++ text ++ "`"

/-- How a message names what it saw. -/
def Seen.text : Seen → String
  | .null => "null"
  | .bool b => "boolean " ++ ticked (if b then "true" else "false")
  | .number (.whole n) => "integer " ++ ticked (String.ofList (writeInt n.val))
  | .number (.double x) => "floating point " ++ ticked (String.ofList (x.text layout))
  | .string s => "string " ++ Text.quoted s
  | .map => "map"
  | .sequence => "sequence"

/-- How a message names what was expected. -/
def Expected.text : Expected → String
  | .string => "a string"
  | .boolean => "a boolean"
  | .double => "f64"
  | .unit => "unit"
  | .map => "a map"
  | .sequence => "a sequence"
  | .variant => "variant identifier"
  | .record name => "struct " ++ name
  | .tagged name => "internally tagged enum " ++ name

/-- A choice of names: two are joined by a word, more are listed. -/
def oneOf : List String → String
  | [] => "nothing"
  | [a] => ticked a
  | [a, b] => ticked a ++ " or " ++ ticked b
  | names => "one of " ++ ", ".intercalate (names.map ticked)

/-- **The wording of a cause.** -/
def Cause.message : Cause → String
  | .expectedValue => "expected value"
  | .expectedColon => "expected `:`"
  | .expectedCommaOrBracket => "expected `,` or `]`"
  | .expectedCommaOrBrace => "expected `,` or `\x7d`"
  | .expectedWord => "expected ident"
  | .trailingComma => "trailing comma"
  | .trailingCharacters => "trailing characters"
  | .keyNotString => "key must be a string"
  | .invalidNumber => "invalid number"
  | .numberOutOfRange => "number out of range"
  | .invalidEscape => "invalid escape"
  | .controlCharacter => "control character (\\u0000-\\u001F) found while parsing a string"
  | .loneSurrogate => "lone leading surrogate in hex escape"
  | .unfinishedSurrogate => "unexpected end of hex escape"
  | .tooDeep => "recursion limit exceeded"
  | .endInValue => "EOF while parsing a value"
  | .endInString => "EOF while parsing a string"
  | .endInList => "EOF while parsing a list"
  | .endInObject => "EOF while parsing an object"
  | .invalidType seen expected => "invalid type: " ++ seen.text ++ ", expected " ++ expected.text
  | .invalidLength length expected =>
    "invalid length " ++ toString length ++ ", expected " ++ expected
  | .invalidIndex index count =>
    "invalid value: integer " ++ ticked (String.ofList (writeInt index))
      ++ ", expected variant index 0 <= i < " ++ toString count
  | .unknownVariant found known =>
    "unknown variant " ++ ticked found ++ ", expected " ++ oneOf known
  | .missingField name => "missing field " ++ ticked name
  | .duplicateField name => "duplicate field " ++ ticked name
  | .negativeSeconds => "cannot convert float seconds to Duration: value is negative"
  | .tooManySeconds =>
    "cannot convert float seconds to Duration: value is either too big or NaN"

/-- **A step from a value to one of its parts.** -/
inductive Step where
  | member (key : String)
  | item (index : Nat)
  /-- Into an object, to a member whose key could not be read. -/
  | unnamed
deriving DecidableEq, Repr

/-- **A fault**: its cause and where reading stopped. -/
structure Fault where
  cause : Cause
  /-- The input that was left. -/
  rest : List Char
  /-- How many bytes past the start of `rest` the fault points; nothing while
  the fault has no place yet. -/
  ahead : Option Nat
  /-- The way to the fault from the value that was asked for. -/
  trail : List Step := []

namespace Fault

/-- A fault that points at the start of the input left. -/
def here (cause : Cause) (rest : List Char) : Fault :=
  { cause := cause, rest := rest, ahead := some 0 }

/-- A fault that points past the first byte of the input left, the offending
one. -/
def past (cause : Cause) (rest : List Char) : Fault :=
  { cause := cause, rest := rest, ahead := some 1 }

/-- A fault without a place of its own. -/
def unsettled (cause : Cause) (rest : List Char) : Fault :=
  { cause := cause, rest := rest, ahead := none }

/-- **A fault without a place takes the place given**; another keeps its own. -/
def settle (fault : Fault) (rest : List Char) : Fault :=
  match fault.ahead with
  | none => { fault with rest := rest, ahead := some 0 }
  | some _ => fault

/-- The same fault, seen from the enclosing value. -/
def under (step : Step) (fault : Fault) : Fault := { fault with trail := step :: fault.trail }

end Fault

/-- **A place in a text**: the line, from one, and the bytes before it in its
line. -/
structure Place where
  line : Nat := 1
  column : Nat := 0
deriving DecidableEq, Repr

namespace Place

/-- The place after a character. -/
def after (place : Place) (c : Char) : Place :=
  if c = '\n' then { line := place.line + 1, column := 0 }
  else { place with column := place.column + c.utf8Size }

/-- The place a number of bytes further on, inside a character if need be, but
not past the end. -/
def advance (place : Place) : List Char → Nat → Place
  | [], _ => place
  | c :: rest, bytes =>
    if c.utf8Size ≤ bytes then (place.after c).advance rest (bytes - c.utf8Size)
    else { place with column := place.column + bytes }

/-- **The place `ahead` bytes into what is left of a text.** -/
def of (text rest : List Char) (ahead : Nat) : Place :=
  ((text.take (text.length - rest.length)).foldl after {}).advance rest ahead

end Place

/-- **Why a text was refused**, as it is reported. -/
structure ReadError where
  cause : Cause
  /-- Where, unless nothing gave the fault a place. -/
  place : Option Place
  /-- The way to the fault from the value that was asked for. -/
  trail : List Step

namespace ReadError

/-- The report of a fault in a text. -/
def ofFault (text : List Char) (fault : Fault) : ReadError :=
  { cause := fault.cause
    place := fault.ahead.map (Place.of text fault.rest)
    trail := fault.trail }

/-- The category of the cause. -/
def category (error : ReadError) : Category := error.cause.category

/-- **The wording of a report**: the cause, and the place if there is one. -/
def message (error : ReadError) : String :=
  match error.place with
  | none => error.cause.message
  | some place =>
    error.cause.message ++ " at line " ++ toString place.line
      ++ " column " ++ toString place.column

end ReadError

end ServiceBroker.Json
