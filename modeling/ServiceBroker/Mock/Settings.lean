import ServiceBroker.Text.Percent

/-!
# The settings of the mock broker

The mock broker makes a change at once, or accepts it and reports it in
progress for a number of polls before it reports success. The mode is given as
a text: `sync`, `async`, or `async:` and the number of polls in decimal, which
is below `2^32` and may have a plus sign.

The number is gathered digit by digit in a word of 32 bits (`pushDigit?`). A
step that takes more bits than that ends the reading, so that no number comes
out as another one, however long its digits are.
-/

namespace ServiceBroker.Mock

/-- **How changes are made.** -/
inductive Mode where
  /-- At once. -/
  | sync
  /-- Accepted first, and in progress for a number of polls. -/
  | async (polls : Nat)
deriving DecidableEq, Repr

/-- The value of decimal digits. -/
def decimalValue (digits : List Char) : Nat :=
  digits.foldl (fun n c => n * 10 + (c.toNat - 0x30)) 0

/-- The word of 32 bits with a value, if there is one. -/
def word? (n : Nat) : Option UInt32 :=
  if h : n < UInt32.size then some (.ofNatLT n h) else none

/-- **A word with one more decimal digit behind it.** There is none if the
character is no digit, and none if the tenfold, or its sum with the digit,
takes more than 32 bits. -/
def pushDigit? (n : UInt32) (c : Char) : Option UInt32 :=
  if c.isDigit then
    (word? (n.toNat * 10)).bind fun tenfold => word? (tenfold.toNat + (c.toNat - 0x30))
  else none

/-- A word of 32 bits, from one decimal digit at least. -/
def unsigned32? (digits : List Char) : Option UInt32 :=
  if digits = [] then none else digits.foldlM pushDigit? 0

/-- A number of polls: a plus sign may stand before the digits. -/
def polls? : List Char → Option UInt32
  | '+' :: digits => unsigned32? digits
  | digits => unsigned32? digits

/-- **The mode that a text names.** -/
def Mode.parse? (text : String) : Option Mode :=
  if text = "sync" then some .sync
  else if text = "async" then some (.async 1)
  else
    let (name, polls) := Text.cutAtFirst ':' text.toList
    if ':' ∈ text.toList ∧ name = "async".toList then
      (polls? polls).map fun n => .async n.toNat
    else none

example : Mode.parse? "async:+007" = some (.async 7) := by decide
example : Mode.parse? "async:4294967296" = none := by decide
example : Mode.parse? "async:1:2" = none := by decide

/-- **The settings of a mock broker.** -/
structure Settings where
  username : String := "admin"
  password : String := "secret"
  mode : Mode := .sync
  /-- Whether acceptances leave the token out. -/
  omitToken : Bool := false
deriving DecidableEq, Repr

end ServiceBroker.Mock
