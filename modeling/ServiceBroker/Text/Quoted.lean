import ServiceBroker.Text.Hexadecimal
import ServiceBroker.Text.Hidden

/-!
# Quoted text in diagnostics

A diagnostic shows a text between double quotes. The quote and the backslash
are marked by a backslash, tab, line feed, carriage return and NUL have short
escapes, every other hidden character (`Text.isHidden`) is written by its code
point in lower-case hexadecimal between braces, and all else stands for
itself. Unlike the strings of JSON, an apostrophe and a slash are not marked
and an escape is never a pair of surrogates.
-/

namespace ServiceBroker.Text

/-- **One character of a quoted text.** -/
def quotedChar (c : Char) : List Char :=
  if c = '\x00' then ['\\', '0']
  else if c = '\t' then ['\\', 't']
  else if c = '\r' then ['\\', 'r']
  else if c = '\n' then ['\\', 'n']
  else if c = '"' then ['\\', '"']
  else if c = '\\' then ['\\', '\\']
  else if isHidden c then ['\\', 'u', '\x7b'] ++ Nat.toDigits 16 c.toNat ++ ['\x7d']
  else [c]

/-- **The quoted form of a text**, quotes included. -/
def quoted (text : String) : String :=
  String.ofList ('"' :: text.toList.flatMap quotedChar ++ ['"'])

example : quoted "a\"b\\\n" = "\"a\\\"b\\\\\\n\"" := by decide
example : quoted "é'/" = "\"é'/\"" := by decide

end ServiceBroker.Text
