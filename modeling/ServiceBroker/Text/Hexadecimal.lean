/-!
# Hexadecimal digits

Quoted texts, JSON strings and URLs all spell characters out in hexadecimal.
Quoted texts and JSON write the letters in lower case, URLs in upper case, and
every reader takes both. Main statements: either spelling of a digit reads
back as its value.
-/

namespace ServiceBroker.Text

/-- **The digit of value `n < 16`**, a letter in lower case. -/
def hexDigit (n : Nat) : Char := Char.ofNat (if n < 10 then 0x30 + n else 0x57 + n)

/-- The digit of value `n < 16`, a letter in upper case. -/
def upperHexDigit (n : Nat) : Char := Char.ofNat (if n < 10 then 0x30 + n else 0x37 + n)

/-- **The value of a digit** of either case. -/
def hexValue? (c : Char) : Option Nat :=
  if '0' ≤ c && c ≤ '9' then some (c.toNat - 0x30)
  else if 'a' ≤ c && c ≤ 'f' then some (c.toNat - 0x57)
  else if 'A' ≤ c && c ≤ 'F' then some (c.toNat - 0x37)
  else none

/-- A digit in lower case reads back as its value. -/
theorem hexValue?_hexDigit {n : Nat} (h : n < 16) : hexValue? (hexDigit n) = some n := by
  have digits : ∀ m : Fin 16, hexValue? (hexDigit m.val) = some m.val := by decide
  exact digits ⟨n, h⟩

/-- A digit in upper case reads back as its value. -/
theorem hexValue?_upperHexDigit {n : Nat} (h : n < 16) :
    hexValue? (upperHexDigit n) = some n := by
  have digits : ∀ m : Fin 16, hexValue? (upperHexDigit m.val) = some m.val := by decide
  exact digits ⟨n, h⟩

end ServiceBroker.Text
