import ServiceBroker.Text.Hexadecimal
import ServiceBroker.Text.Utf8

/-!
# Percent-encoding and form pairs

Inside a URL a byte may be spelled as a percent sign and two hexadecimal
digits. `percentDecode` reads such a text as bytes; a percent sign that two
digits do not follow stands for itself, and every other character for its
UTF-8 bytes. `percentEncode` spells every byte out except the unreserved
characters of ASCII.

A query is a list of pairs between ampersands, each split at its first equals
sign, in which a plus sign is a space (`formPairs`). An empty piece is no
pair, and a pair without an equals sign has an empty value.
-/

namespace ServiceBroker.Text

/-- **The bytes that a percent-encoded text spells.** -/
def percentDecode : List Char → List UInt8
  | [] => []
  | c :: rest =>
    if c = '%' then
      match rest with
      | a :: b :: rest' =>
        match hexValue? a, hexValue? b with
        | some high, some low => UInt8.ofNat (high * 16 + low) :: percentDecode rest'
        | _, _ => 0x25 :: percentDecode (a :: b :: rest')
      | short => 0x25 :: percentDecode short
    else String.utf8EncodeChar c ++ percentDecode rest

/-- Letters, figures and `-`, `.`, `_`, `~` of ASCII, which need no escape
anywhere in a URL. -/
def isUnreserved (c : Char) : Bool :=
  c.isAlphanum || c == '-' || c == '.' || c == '_' || c == '~'

/-- A byte as a percent sign and two digits. -/
def percentByte (b : UInt8) : List Char :=
  ['%', upperHexDigit (b.toNat / 16), upperHexDigit (b.toNat % 16)]

/-- **The percent-encoding of a text**, unreserved characters standing for
themselves. -/
def percentEncode (text : List Char) : List Char :=
  text.flatMap fun c =>
    if isUnreserved c then [c] else (String.utf8EncodeChar c).flatMap percentByte

/-- One side of a form pair: a plus sign is a space, escapes are bytes, and
bytes that are no text are replaced. -/
def formText (text : List Char) : String :=
  String.ofList (Utf8.lossy (percentDecode (text.map fun c => if c = '+' then ' ' else c)))

/-- A text cut at every occurrence of a separator. -/
def splitAtEach (separator : Char) : List Char → List (List Char)
  | [] => [[]]
  | c :: rest =>
    if c = separator then [] :: splitAtEach separator rest
    else
      match splitAtEach separator rest with
      | [] => [[c]]
      | piece :: pieces => (c :: piece) :: pieces

/-- A text cut at the first occurrence of a separator, which belongs to
neither part; the second part is empty when there is none. -/
def cutAtFirst (separator : Char) (text : List Char) : List Char × List Char :=
  (text.takeWhile (· ≠ separator), (text.dropWhile (· ≠ separator)).drop 1)

/-- **The pairs of a query**, in the order written. -/
def formPairs (query : List Char) : List (String × String) :=
  ((splitAtEach '&' query).filter (· ≠ [])).map fun piece =>
    let (name, value) := cutAtFirst '=' piece
    (formText name, formText value)

/-- A query that reads back as the given pairs. -/
def formQuery (pairs : List (String × String)) : List Char :=
  ['&'].intercalate (pairs.map fun (name, value) =>
    percentEncode name.toList ++ '=' :: percentEncode value.toList)

example : percentDecode ['%', '4', '1', '%', 'z', 'z'] = [0x41, 0x25, 0x7A, 0x7A] := by decide
example : formPairs ['a', '=', '1', '+', '2', '&', '&', 'b'] = [("a", "1 2"), ("b", "")] := by
  decide +kernel
example : formPairs (formQuery [("k", "a&b=c+d é")]) = [("k", "a&b=c+d é")] := by
  decide +kernel

end ServiceBroker.Text
