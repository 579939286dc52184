/-!
# UTF-8, with every fault accounted for

`Utf8.encode` lists the bytes of a text. `Utf8.decode` reads bytes back, one
entry per character and one empty entry per fault. A fault is a maximal
subpart: the longest run of bytes that begins a character and cannot go on,
or a single byte that begins none. Two readings are taken from it:
`Utf8.strict?` refuses bytes with a fault, `Utf8.lossy` writes the replacement
character U+FFFD for each.
-/

namespace ServiceBroker.Text.Utf8

/-- **The bytes of a text.** -/
def encode (text : List Char) : List UInt8 := text.flatMap String.utf8EncodeChar

/-- Whether a byte continues a character. -/
def isTail (b : UInt8) : Bool := 0x80 ≤ b && b ≤ 0xBF

/-- Whether the second byte `b` may follow the first byte `a` of a character of
three bytes: no overlong forms and no surrogates. -/
def isSecondOfThree (a b : UInt8) : Bool :=
  if a = 0xE0 then 0xA0 ≤ b && b ≤ 0xBF
  else if a = 0xED then 0x80 ≤ b && b ≤ 0x9F
  else isTail b

/-- Whether the second byte `b` may follow the first byte `a` of a character of
four bytes: no overlong forms and nothing past U+10FFFF. -/
def isSecondOfFour (a b : UInt8) : Bool :=
  if a = 0xF0 then 0x90 ≤ b && b ≤ 0xBF
  else if a = 0xF4 then 0x80 ≤ b && b ≤ 0x8F
  else isTail b

/-- The character of a leading part and its tail bytes' six bits each. -/
def assemble (lead : Nat) (tail : List UInt8) : Char :=
  Char.ofNat (tail.foldl (fun n b => n * 64 + (b.toNat - 0x80)) lead)

/-- **Decoding**: a character, or a fault, per entry. -/
def decode : List UInt8 → List (Option Char)
  | [] => []
  | a :: rest =>
    if a < 0x80 then some (Char.ofNat a.toNat) :: decode rest
    else if 0xC2 ≤ a && a ≤ 0xDF then
      match rest with
      | b :: rest' =>
        if isTail b then some (assemble (a.toNat - 0xC0) [b]) :: decode rest'
        else none :: decode (b :: rest')
      | [] => [none]
    else if 0xE0 ≤ a && a ≤ 0xEF then
      match rest with
      | b :: c :: rest' =>
        if isSecondOfThree a b then
          if isTail c then some (assemble (a.toNat - 0xE0) [b, c]) :: decode rest'
          else none :: decode (c :: rest')
        else none :: decode (b :: c :: rest')
      | [b] => if isSecondOfThree a b then [none] else none :: decode [b]
      | [] => [none]
    else if 0xF0 ≤ a && a ≤ 0xF4 then
      match rest with
      | b :: c :: d :: rest' =>
        if isSecondOfFour a b then
          if isTail c then
            if isTail d then some (assemble (a.toNat - 0xF0) [b, c, d]) :: decode rest'
            else none :: decode (d :: rest')
          else none :: decode (c :: d :: rest')
        else none :: decode (b :: c :: d :: rest')
      | [b, c] =>
        if isSecondOfFour a b then if isTail c then [none] else none :: decode [c]
        else none :: decode [b, c]
      | [b] => if isSecondOfFour a b then [none] else none :: decode [b]
      | [] => [none]
    else none :: decode rest

/-- **The text of faultless bytes.** -/
def strict? (bytes : List UInt8) : Option (List Char) := (decode bytes).mapM id

/-- **The text of any bytes**, U+FFFD standing for each fault. -/
def lossy (bytes : List UInt8) : List Char := (decode bytes).map (·.getD '\ufffd')

example : strict? (encode ['a', 'é', '€', '💥']) = some ['a', 'é', '€', '💥'] := by decide
example : lossy [0x61, 0xE2, 0x82, 0x62] = ['a', '\ufffd', 'b'] := by decide
example : lossy [0xF0, 0x80, 0xFF] = ['\ufffd', '\ufffd', '\ufffd'] := by decide
example : strict? [0xED, 0xA0, 0x80] = none := by decide

end ServiceBroker.Text.Utf8
