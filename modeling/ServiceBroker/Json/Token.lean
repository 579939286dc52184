import ServiceBroker.Json.Fault
import ServiceBroker.Double.Scaled

/-!
# Words, strings and numbers

The parts of a JSON text that hold no other value. Every reader takes the
input and returns what it read and the input left, or the first fault.

A string's escapes of four hexadecimal digits are UTF-16 units, so a leading
surrogate has to be followed by the escape of a trailing one. A number is
gathered into a natural significand below `2^64`: digits that would pass that
limit are dropped, each counting for one power of ten if it stands before the
point. A number without point and exponent whose digits all fit is an integer;
every other number, and minus zero, is a double (`Double.scaled?`).
-/

namespace ServiceBroker.Json

/-- **A reader**: it takes the input and leaves the rest. -/
abbrev Read (α : Type) := List Char → Except Fault (α × List Char)

/-- The four characters that may stand between tokens. -/
def isSpace (c : Char) : Bool := c == ' ' || c == '\n' || c == '\t' || c == '\r'

/-- The input from the next token on. -/
def skipSpace (s : List Char) : List Char := s.dropWhile isSpace

/-- Whether a character is a decimal digit. -/
def isDigit (c : Char) : Bool := '0' ≤ c && c ≤ '9'

/-- The value of a decimal digit. -/
def digitValue (c : Char) : Nat := c.toNat - 0x30

/-- **The rest of a word** whose first letter announced it. -/
def word : List Char → List Char → Except Fault (List Char)
  | [], s => .ok s
  | _ :: _, [] => .error (.past .endInValue [])
  | w :: ws, c :: s => if c = w then word ws s else .error (.past .expectedWord (c :: s))

/-! ## Strings -/

/-- The UTF-16 unit of four hexadecimal digits. -/
def unit? (a b c d : Char) : Option Nat := do
  let a ← Text.hexValue? a
  let b ← Text.hexValue? b
  let c ← Text.hexValue? c
  let d ← Text.hexValue? d
  return a * 0x1000 + b * 0x100 + c * 0x10 + d

/-- Whether a unit is a leading surrogate. -/
def isLeading (unit : Nat) : Bool := 0xD800 ≤ unit && unit ≤ 0xDBFF

/-- Whether a unit is a trailing surrogate. -/
def isTrailing (unit : Nat) : Bool := 0xDC00 ≤ unit && unit ≤ 0xDFFF

/-- The character of a pair of surrogates. -/
def paired (leading trailing : Nat) : Char :=
  Char.ofNat (0x10000 + (leading - 0xD800) * 0x400 + (trailing - 0xDC00))

/-- The character that a one-letter escape stands for. -/
def shortEscape? (c : Char) : Option Char :=
  if c = '"' then some '"'
  else if c = '\\' then some '\\'
  else if c = '/' then some '/'
  else if c = 'b' then some '\x08'
  else if c = 'f' then some '\x0c'
  else if c = 'n' then some '\n'
  else if c = 'r' then some '\r'
  else if c = 't' then some '\t'
  else none

/-- The number of bytes of a text. -/
def utf8Length (text : List Char) : Nat := text.foldr (fun c bytes => c.utf8Size + bytes) 0

/-- The fault of an escape whose four bytes are not four hexadecimal digits: a
text of fewer than four bytes has ended too early. -/
def brokenEscape (s : List Char) : Fault :=
  { cause := if 4 ≤ utf8Length (s.take 4) then .invalidEscape else .endInString
    rest := s
    ahead := some 4 }

/-- The fault of a leading surrogate that no complete escape follows. -/
def brokenPair : List Char → Fault
  | [] => .here .endInString []
  | c :: rest =>
    if c = '\\' then
      match rest with
      | [] => .here .endInString []
      | d :: rest => if d = 'u' then brokenEscape rest else .past .unfinishedSurrogate (d :: rest)
    else .past .unfinishedSurrogate (c :: rest)

/-- What was read with one more character before it. -/
def prepend (c : Char) : Except Fault (List Char × List Char) → Except Fault (List Char × List Char)
  | .ok (text, rest) => .ok (c :: text, rest)
  | .error fault => .error fault

/-- **A string after its opening quote**, to its closing one. -/
def stringBody : Read (List Char)
  | [] => .error (.here .endInString [])
  | c :: rest =>
    if c = '"' then .ok ([], rest)
    else if c = '\\' then
      match rest with
      | [] => .error (.here .endInString [])
      | e :: rest =>
        match shortEscape? e with
        | some x => prepend x (stringBody rest)
        | none =>
          if e = 'u' then
            match rest with
            | h₁ :: h₂ :: h₃ :: h₄ :: rest =>
              match unit? h₁ h₂ h₃ h₄ with
              | none => .error (brokenEscape (h₁ :: h₂ :: h₃ :: h₄ :: rest))
              | some unit =>
                if isTrailing unit then .error (.here .loneSurrogate rest)
                else if isLeading unit then
                  match rest with
                  | b :: u :: h₁ :: h₂ :: h₃ :: h₄ :: rest =>
                    if b = '\\' ∧ u = 'u' then
                      match unit? h₁ h₂ h₃ h₄ with
                      | none => .error (brokenEscape (h₁ :: h₂ :: h₃ :: h₄ :: rest))
                      | some unit' =>
                        if isTrailing unit' then prepend (paired unit unit') (stringBody rest)
                        else .error (.here .loneSurrogate rest)
                    else .error (brokenPair (b :: u :: h₁ :: h₂ :: h₃ :: h₄ :: rest))
                  | short => .error (brokenPair short)
                else prepend (Char.ofNat unit) (stringBody rest)
            | short => .error (brokenEscape short)
          else .error (.past .invalidEscape (e :: rest))
    else if c.toNat < 0x20 then .error (.past .controlCharacter (c :: rest))
    else prepend c (stringBody rest)

/-! ## Numbers -/

/-- **Gathering digits** onto a significand while it stays below `2^64`; the
count of digits taken comes with it. -/
def gather (significand count : Nat) : List Char → Nat × Nat × List Char
  | [] => (significand, count, [])
  | c :: rest =>
    if isDigit c ∧ significand * 10 + digitValue c < 0x10000000000000000 then
      gather (significand * 10 + digitValue c) (count + 1) rest
    else (significand, count, c :: rest)

/-- Whether the input goes on with a digit. -/
def startsWithDigit : List Char → Bool
  | [] => false
  | c :: _ => isDigit c

/-- **Gathering the digits of an exponent**; the flag tells that a digit was
taken which makes it pass `2^31 - 1`. -/
def gatherExponent (exponent : Nat) : List Char → Nat × Bool × List Char
  | [] => (exponent, false, [])
  | c :: rest =>
    if isDigit c then
      if exponent * 10 + digitValue c < 0x80000000 then
        gatherExponent (exponent * 10 + digitValue c) rest
      else (exponent, true, rest)
    else (exponent, false, c :: rest)

/-- The double of a significand and a power of ten. -/
def doubleOf (negative : Bool) (significand : Nat) (exponent : Int) : Read Number := fun rest =>
  match Double.scaled? negative significand exponent with
  | some x => .ok (.double x, rest)
  | none => .error (.here .numberOutOfRange rest)

/-- A number from its exponent on, after the letter. -/
def exponentPart (negative : Bool) (significand : Nat) (scale : Int) : Read Number := fun s =>
  let (down, s) : Bool × List Char :=
    match s with
    | [] => (false, [])
    | c :: rest => if c = '-' then (true, rest) else if c = '+' then (false, rest) else (false, s)
  match s with
  | [] => .error (.here .endInValue [])
  | c :: rest =>
    if isDigit c then
      let (exponent, overflow, rest) := gatherExponent (digitValue c) rest
      if overflow then
        if significand ≠ 0 ∧ down = false then .error (.here .numberOutOfRange rest)
        else .ok (.double { Double.zero with negative := negative }, rest.dropWhile isDigit)
      else
        doubleOf negative significand (if down then scale - exponent else scale + exponent) rest
    else .error (.past .invalidNumber (c :: rest))

/-- A number that may go on with an exponent. -/
def maybeExponent (negative : Bool) (significand : Nat) (scale : Int) : Read Number := fun s =>
  match s with
  | c :: rest =>
    if c = 'e' ∨ c = 'E' then exponentPart negative significand scale rest
    else doubleOf negative significand scale s
  | [] => doubleOf negative significand scale []

/-- A number from its fraction on, after the point. -/
def fractionPart (negative : Bool) (significand : Nat) (scale : Int) : Read Number := fun s =>
  let (significand, count, rest) := gather significand 0 s
  if startsWithDigit rest then
    maybeExponent negative significand (scale - count) (rest.dropWhile isDigit)
  else if count = 0 then
    .error (.past (if rest.isEmpty then .endInValue else .invalidNumber) rest)
  else maybeExponent negative significand (scale - count) rest

/-- A number that may go on with a fraction or an exponent. -/
def maybeFraction (negative : Bool) (significand : Nat) (scale : Int) : Read Number := fun s =>
  match s with
  | c :: rest =>
    if c = '.' then fractionPart negative significand scale rest
    else maybeExponent negative significand scale s
  | [] => doubleOf negative significand scale []

/-- **A number of digits alone**: an integer, unless it is minus zero or
below the signed words. -/
def integerOf (negative : Bool) (significand : Nat) : Read Number := fun rest =>
  if negative then
    if h : 0 < significand ∧ significand ≤ 0x8000000000000000 then
      .ok (.whole ⟨-significand, by omega, by omega⟩, rest)
    else doubleOf true significand 0 rest
  else if h : significand < 0x10000000000000000 then
    .ok (.whole ⟨significand, by omega, by omega⟩, rest)
  else doubleOf false significand 0 rest

/-- A number whose digits before the point are gathered. -/
def afterInteger (negative : Bool) (significand : Nat) : Read Number := fun s =>
  match s with
  | c :: _ =>
    if c = '.' ∨ c = 'e' ∨ c = 'E' then maybeFraction negative significand 0 s
    else integerOf negative significand s
  | [] => integerOf negative significand []

/-- A number after its sign. -/
def unsignedNumber (negative : Bool) : Read Number
  | [] => .error (.here .endInValue [])
  | c :: rest =>
    if c = '0' then
      if startsWithDigit rest then .error (.past .invalidNumber rest)
      else afterInteger negative 0 rest
    else if isDigit c then
      let (significand, _, rest) := gather (digitValue c) 1 rest
      if startsWithDigit rest then
        maybeFraction negative significand (rest.takeWhile isDigit).length (rest.dropWhile isDigit)
      else afterInteger negative significand rest
    else .error (.past .invalidNumber (c :: rest))

/-- **A number.** -/
def readNumber : Read Number
  | [] => .error (.here .endInValue [])
  | c :: rest => if c = '-' then unsignedNumber true rest else unsignedNumber false (c :: rest)

/-- Whether a character begins a number. -/
def startsNumber (c : Char) : Bool := c == '-' || isDigit c

end ServiceBroker.Json
