import ServiceBroker.Json.Token

/-!
# Skipping values

A member that a record does not know is skipped. Skipping is lighter than
reading: it checks the brackets, the words and the shape of strings and
numbers, but not the range of a number, not the pairing of surrogates and not
the depth, since it keeps the open brackets in a list instead of nesting. Three
faults it words differently from a reader: an array that ends after a comma
lacks a value, an object that does so lacks a key, and a number that the end of
the text cuts short is an invalid one.
-/

namespace ServiceBroker.Json

/-- **The two brackets** of JSON. -/
inductive Bracket where
  | square
  | brace
deriving DecidableEq, Repr

/-- The character that closes a bracket. -/
def Bracket.closing : Bracket → Char
  | .square => ']'
  | .brace => '}'

/-- The cause when the text ends inside a bracket. -/
def Bracket.ending : Bracket → Cause
  | .square => .endInList
  | .brace => .endInObject

/-- The cause when neither a comma nor the end of a bracket follows a part. -/
def Bracket.separating : Bracket → Cause
  | .square => .expectedCommaOrBracket
  | .brace => .expectedCommaOrBrace

/-- **Skipping a string** after its opening quote. -/
def skipString : List Char → Except Fault (List Char)
  | [] => .error (.here .endInString [])
  | c :: rest =>
    if c = '"' then .ok rest
    else if c = '\\' then
      match rest with
      | [] => .error (.here .endInString [])
      | e :: rest =>
        if (shortEscape? e).isSome then skipString rest
        else if e = 'u' then
          match rest with
          | h₁ :: h₂ :: h₃ :: h₄ :: rest =>
            match unit? h₁ h₂ h₃ h₄ with
            | none => .error (brokenEscape (h₁ :: h₂ :: h₃ :: h₄ :: rest))
            | some _ => skipString rest
          | short => .error (brokenEscape short)
        else .error (.past .invalidEscape (e :: rest))
    else if c.toNat < 0x20 then .error (.here .controlCharacter (c :: rest))
    else skipString rest

/-- Skipping an exponent after its letter. -/
def skipExponent (s : List Char) : Except Fault (List Char) :=
  let s := match s with
    | c :: rest => if c = '+' ∨ c = '-' then rest else s
    | [] => s
  if startsWithDigit s then .ok (s.dropWhile isDigit) else .error (.past .invalidNumber s)

/-- Skipping an exponent if one follows. -/
def skipMaybeExponent (s : List Char) : Except Fault (List Char) :=
  match s with
  | c :: rest => if c = 'e' ∨ c = 'E' then skipExponent rest else .ok s
  | [] => .ok s

/-- Skipping what follows the digits of an integer. -/
def skipMaybeFraction (s : List Char) : Except Fault (List Char) :=
  match s with
  | c :: rest =>
    if c = '.' then
      if startsWithDigit rest then skipMaybeExponent (rest.dropWhile isDigit)
      else .error (.past .invalidNumber rest)
    else skipMaybeExponent s
  | [] => .ok s

/-- **Skipping a number** after its sign. -/
def skipNumber : List Char → Except Fault (List Char)
  | [] => .error (.past .invalidNumber [])
  | c :: rest =>
    if c = '0' then
      if startsWithDigit rest then .error (.past .invalidNumber rest) else skipMaybeFraction rest
    else if isDigit c then skipMaybeFraction (rest.dropWhile isDigit)
    else .error (.past .invalidNumber (c :: rest))

/-- Skipping a value up to its end, or up to the inside of the bracket it opens. -/
def skipHead (s : List Char) : Except Fault (Option Bracket × List Char) :=
  match skipSpace s with
  | [] => .error (.past .endInValue [])
  | c :: rest =>
    if c = '[' then .ok (some .square, rest)
    else if c = '{' then .ok (some .brace, rest)
    else if c = '"' then (skipString rest).map (none, ·)
    else if c = 'n' then (word ['u', 'l', 'l'] rest).map (none, ·)
    else if c = 't' then (word ['r', 'u', 'e'] rest).map (none, ·)
    else if c = 'f' then (word ['a', 'l', 's', 'e'] rest).map (none, ·)
    else if c = '-' then (skipNumber rest).map (none, ·)
    else if isDigit c then (skipNumber (c :: rest)).map (none, ·)
    else .error (.past .expectedValue (c :: rest))

/-- **Closing brackets** until a part is to be read in one that stays open. The
flag tells that a part came before, so that a comma may follow; no bracket is
left when the whole value has been skipped. -/
def skipClosing : Bool → List Bracket → List Char → Except Fault (List Bracket × List Char)
  | _, [], s => .ok ([], s)
  | afterPart, bracket :: outer, s =>
    match skipSpace s with
    | [] => .error (.past bracket.ending [])
    | c :: rest =>
      if c = bracket.closing then skipClosing true outer rest
      else if afterPart then
        if c = ',' then .ok (bracket :: outer, rest)
        else .error (.past bracket.separating (c :: rest))
      else .ok (bracket :: outer, c :: rest)

/-- Skipping the key and the colon before a member's value. -/
def skipKey (s : List Char) : Except Fault (List Char) :=
  match skipSpace s with
  | [] => .error (.past .endInObject [])
  | c :: rest =>
    if c = '"' then do
      let rest ← skipString rest
      match skipSpace rest with
      | [] => .error (.past .endInObject [])
      | d :: rest =>
        if d = ':' then .ok rest else .error (.past .expectedColon (d :: rest))
    else .error (.past .keyNotString (c :: rest))

/-- Skipping values inside the open brackets until all are closed, one turn per
value. -/
def skipValues : Nat → List Bracket → List Char → Except Fault (List Char)
  | 0, _, s => .error (.past .endInValue s)
  | turns + 1, stack, s => do
    let (opened, rest) ← skipHead s
    let (stack, rest) ← match opened with
      | some bracket => skipClosing false (bracket :: stack) rest
      | none => skipClosing true stack rest
    match stack with
    | [] => .ok rest
    | .square :: _ => skipValues turns stack rest
    | .brace :: _ => do
      let rest ← skipKey rest
      skipValues turns stack rest

/-- **Skipping one value.** Every turn takes a character at least, so a turn
per character is enough. -/
def skipValue (s : List Char) : Except Fault (List Char) := skipValues (s.length + 1) [] s

end ServiceBroker.Json
