import ServiceBroker.Json.Basic
import ServiceBroker.Double.Shortest
import ServiceBroker.Text.Quoted

/-!
# Writing JSON

The written form is compact: no white space, members in their order. Inside a
string only the quote, the backslash and the controls below U+0020 are
escaped, the five common controls by a letter and the others by four
hexadecimal digits. Integers are plain digits, and doubles the shortest
digits that read back (`Double.shortest`) laid out by `Json.layout`.
-/

namespace ServiceBroker.Json

/-- **How a JSON text lays a double out**: positional from `0.00001` up to
below `10^16`, with an exponent outside. -/
def layout : Double.Layout := { leastPlain := -5, mostPlain := 15 }

/-- One character of a string. -/
def escapeChar (c : Char) : List Char :=
  if c = '"' then ['\\', '"']
  else if c = '\\' then ['\\', '\\']
  else if c = '\x08' then ['\\', 'b']
  else if c = '\x0c' then ['\\', 'f']
  else if c = '\n' then ['\\', 'n']
  else if c = '\r' then ['\\', 'r']
  else if c = '\t' then ['\\', 't']
  else if c.toNat < 0x20 then
    ['\\', 'u', '0', '0', Text.hexDigit (c.toNat / 16), Text.hexDigit (c.toNat % 16)]
  else [c]

/-- **A string with its quotes.** -/
def writeString (text : List Char) : List Char := '"' :: text.flatMap escapeChar ++ ['"']

/-- **An integer in decimal digits.** -/
def writeInt (n : Int) : List Char :=
  if n < 0 then '-' :: Nat.toDigits 10 n.natAbs else Nat.toDigits 10 n.natAbs

/-- **A number.** -/
def writeNumber : Number → List Char
  | .whole n => writeInt n.val
  | .double x => x.text layout

/-- **The written form of a value.** -/
def write : Json → List Char
  | .null => ['n', 'u', 'l', 'l']
  | .bool true => ['t', 'r', 'u', 'e']
  | .bool false => ['f', 'a', 'l', 's', 'e']
  | .number n => writeNumber n
  | .string s => writeString s.toList
  | .array [] => ['[', ']']
  | .array (item :: items) => '[' :: (item.write ++ writeItems items)
  | .object [] => ['{', '}']
  | .object ((key, value) :: members) =>
    '{' :: (writeString key.toList ++ ':' :: (value.write ++ writeMembers members))
where
  /-- What follows the first item of an array. -/
  writeItems : List Json → List Char
    | [] => [']']
    | item :: items => ',' :: (item.write ++ writeItems items)
  /-- What follows the first member of an object. -/
  writeMembers : Members → List Char
    | [] => ['}']
    | (key, value) :: members =>
      ',' :: (writeString key.toList ++ ':' :: (value.write ++ writeMembers members))

/-- **The text of a value.** -/
def text (value : Json) : String := String.ofList value.write

example : text (.object [("a", .array [.null, .bool true]), ("é\n", .string "\x01")])
    = "\x7b\"a\":[null,true],\"é\\n\":\"\\u0001\"\x7d" := by decide

end ServiceBroker.Json
