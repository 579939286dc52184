/-!
# Base64

Three bytes are four digits of six bits. The last group may be short: one
byte gives two digits and two pads, two bytes give three digits and one pad,
so the length of the text is a multiple of four.
-/

namespace ServiceBroker.Text

/-- **The digit of value `n < 64`**: upper case, lower case, figures, plus and
slash. -/
def base64Digit (n : Nat) : Char :=
  if n < 26 then Char.ofNat (0x41 + n)
  else if n < 52 then Char.ofNat (0x61 + (n - 26))
  else if n < 62 then Char.ofNat (0x30 + (n - 52))
  else if n = 62 then '+' else '/'

/-- **The padded text of a list of bytes.** -/
def base64 : List UInt8 → List Char
  | [] => []
  | [a] => [base64Digit (a.toNat / 4), base64Digit (a.toNat % 4 * 16), '=', '=']
  | [a, b] =>
    [base64Digit (a.toNat / 4), base64Digit (a.toNat % 4 * 16 + b.toNat / 16),
      base64Digit (b.toNat % 16 * 4), '=']
  | a :: b :: c :: rest =>
    base64Digit (a.toNat / 4) :: base64Digit (a.toNat % 4 * 16 + b.toNat / 16) ::
      base64Digit (b.toNat % 16 * 4 + c.toNat / 64) :: base64Digit (c.toNat % 64) :: base64 rest

example : base64 [0x4D, 0x61, 0x6E] = ['T', 'W', 'F', 'u'] := by decide
example : base64 [0x4D] = ['T', 'Q', '=', '='] := by decide

end ServiceBroker.Text
