/-!
# Media types of JSON

A media type is two words around a slash, the second perhaps with a suffix
after a plus sign, and parameters after semicolons. A body counts as JSON if
the type is `application` and the subtype, or its suffix, is `json`; case does
not count. A text that is no media type is none of JSON either.
-/

namespace ServiceBroker.Mock.MediaType

/-- The characters of a word. -/
def isTokenChar (c : Char) : Bool :=
  c.isAlphanum || "!#$%&'*+-.^_`|~".toList.contains c

/-- Visible ASCII and the tab, which is all that a readable header holds. -/
def isReadable (c : Char) : Bool := (0x20 ≤ c.toNat && c.toNat < 0x7F) || c == '\t'

/-- **Where a reader of parameters stands.** -/
inductive Place where
  /-- Before a name, perhaps after spaces. -/
  | start
  /-- In a name. -/
  | name
  /-- After the equals sign. -/
  | equals
  /-- In a value of one word. -/
  | value
  /-- After an opening quote. -/
  | quote
  /-- In a quoted value that has begun. -/
  | quoted
  /-- After a closing quote. -/
  | closed
deriving DecidableEq, Repr

/-- The characters of a quoted value. -/
def isQuotable (c : Char) : Bool := 0x1F < c.toNat && c.toNat ≠ 0x7F

/-- One character of the parameters. -/
def Place.next? (place : Place) (c : Char) : Option Place :=
  match place with
  | .start => if c = ' ' then some .start else if isTokenChar c then some .name else none
  | .name => if isTokenChar c then some .name else if c = '=' then some .equals else none
  | .equals => if c = '"' then some .quote else if isTokenChar c then some .value else none
  | .value => if isTokenChar c then some .value else if c = ';' then some .start else none
  | .quote => if isQuotable c then some .quoted else none
  | .quoted => if c = '"' then some .closed else if isQuotable c then some .quoted else none
  | .closed => if c = ' ' then some .closed else if c = ';' then some .start else none

/-- Whether parameters may end at a place. -/
def Place.isEnd : Place → Bool
  | .start | .equals | .value | .closed => true
  | .name | .quote | .quoted => false

/-- **Whether a text is a list of parameters**, after the first semicolon. -/
def areParameters (text : List Char) : Bool :=
  match text.foldlM Place.next? .start with
  | some place => place.isEnd
  | none => false

/-- Whether a subtype is `json`, or is so up to or after its last plus sign. A
plus sign at the start is part of the word. -/
def isJsonSubtype (subtype : List Char) : Bool :=
  let json := ['j', 's', 'o', 'n']
  let suffix := (subtype.reverse.takeWhile (· ≠ '+')).reverse
  let stem := subtype.take (subtype.length - suffix.length - 1)
  if stem.isEmpty then subtype == json else stem == json || suffix == json

/-- **Whether the value of a content type is one of JSON.** -/
def isJson (value : String) : Bool :=
  let text := value.toList
  let type := text.takeWhile (· ≠ '/')
  let rest := (text.dropWhile (· ≠ '/')).drop 1
  let subtype := rest.takeWhile (· ≠ ';')
  let parameters := (rest.dropWhile (· ≠ ';')).drop 1
  text.all isReadable && text.contains '/' && subtype.all isTokenChar
    && areParameters parameters
    && type.map Char.toLower == "application".toList
    && isJsonSubtype (subtype.map Char.toLower)

example : ["application/json", "Application/JSON; charset=utf-8", "application/vnd.api+json"].map
    isJson = [true, true, true] := by decide
example : ["", "text/json", "application/+json", "application/json; charset"].map isJson
    = [false, false, false, false] := by decide

end ServiceBroker.Mock.MediaType
