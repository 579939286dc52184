import ServiceBroker.Double.Basic

/-!
# Doubles from a decimal significand

A decimal number is read as a natural significand below `2^64` and a power of
ten. The significand is rounded to a double first and then multiplied or
divided by the double nearest to the power of ten, in strides of at most 308
decades; every stride rounds. The result is within a few units in the last
place of the decimal number, not always the double nearest to it.

A product past the largest double is an overflow. A quotient never
overflows; it runs down to zero.
-/

namespace ServiceBroker.Double

/-- The rank of the double nearest to a power of ten. -/
def tenRank (decades : Nat) : Nat := rankOfNat (Nat.pow 10 decades)

/-- Dividing a rank by a power of ten in strides of 308 decades, stopping at
zero. -/
def divideByTens (rank decades : Nat) : Nat :=
  if decades ≤ 308 then divRank rank (tenRank decades)
  else if rank = 0 then 0
  else divideByTens (divRank rank (tenRank 308)) (decades - 308)
termination_by decades

/-- **The double of `significand · 10^exponent`**, or nothing if it
overflows. -/
def scaled? (negative : Bool) (significand : Nat) (exponent : Int) : Option Double :=
  let start := rankOfNat significand
  let rank :=
    if exponent < 0 then divideByTens start exponent.natAbs
    else if start = 0 then 0
    else if exponent ≤ 308 then mulRank start (tenRank exponent.natAbs)
    else 0x7FF0000000000000
  if h : rank < 0x7FF0000000000000 then some { negative := negative, rank := rank, finite := h }
  else none

/-- The double nearest to an integer; every integer of up to 1023 bits has
one. -/
def ofInt? (n : Int) : Option Double := scaled? (n < 0) n.natAbs 0

end ServiceBroker.Double
