/-!
# Finite double-precision numbers

A JSON number with a fraction or an exponent is held as a double: one of the
finitely many numbers `± m · 2^q` with `m < 2^53` and `-1074 ≤ q ≤ 971`. The
non-negative ones stand in a row, and a double is stored as its sign and its
**rank** in that row. Ranks make every double have one representation, so
equality is decidable and the neighbours of a number are one rank away.

All arithmetic here is exact arithmetic of natural numbers with one rounding
at its end. The unit is `2^-1074`, the smallest positive double, of which
every double is a multiple: `Double.units` counts them, and
`Double.nearestRank` goes back from a quotient to the nearest rank, a tie
going to the even one. A quotient past the last rank is not a double; the
operations that can leave the row return an option.
-/

namespace ServiceBroker

/-- **A finite double-precision number.** -/
structure Double where
  /-- Whether the sign is minus; zero has both signs. -/
  negative : Bool
  /-- How many non-negative doubles lie below the absolute value. -/
  rank : Nat
  /-- The row ends where the exponent of a double does: it has `2047` binades of
  `2^52` ranks. -/
  finite : rank < 0x7FF0000000000000 := by decide
deriving DecidableEq, Repr

/-- **Rounding a quotient to the nearest natural number**, a tie going to the
even one. -/
def roundHalfEven (num den : Nat) : Nat :=
  let quotient := num / den
  let remainder := num % den
  if 2 * remainder < den then quotient
  else if den < 2 * remainder then quotient + 1
  else quotient + quotient % 2

namespace Double

/-- Positive zero. -/
def zero : Double := { negative := false, rank := 0 }

/-- The number of ranks in a binade, `2^52`. -/
def binade : Nat := 0x10000000000000

/-- How many units make one. -/
def unitsOfOne : Nat := 1 <<< 1074

/-- How far the mantissa of a rank is shifted: by one place for every binade,
the first two binades sharing the smallest spacing. -/
def shift (rank : Nat) : Nat := rank / binade - 1

/-- **The value of a rank in units of `2^-1074`.** -/
def units (rank : Nat) : Nat := (rank - shift rank * binade) <<< shift rank

/-- **The rank nearest to `num / den` units**, a tie going to the even rank.
The mantissa keeps the 53 leading bits, and a mantissa that rounds up to
`2^53` is the first of the next binade, which the sum below expresses
without a case of its own. -/
def nearestRank (num den : Nat) : Nat :=
  let bits := (num / den).log2 + 1 - 53
  bits * binade + roundHalfEven num (den <<< bits)

/-- The rank of the double nearest to a natural number. -/
def rankOfNat (n : Nat) : Nat := nearestRank (n * unitsOfOne) 1

/-- The rank of a product, rounded once. -/
def mulRank (a b : Nat) : Nat := nearestRank (units a * units b) unitsOfOne

/-- The rank of a quotient by a positive double, rounded once. -/
def divRank (a b : Nat) : Nat := nearestRank (units a * unitsOfOne) (units b)

/-- **Numeric equality.** The two zeros are equal, and no other two distinct
doubles are. -/
def same (x y : Double) : Bool := x.rank == y.rank && (x.negative == y.negative || x.rank == 0)

/-- Numeric equality is reflexive, since no double here is a NaN. -/
@[simp] theorem same_refl (x : Double) : x.same x = true := by simp [same]

theorem same_comm (x y : Double) : x.same y = y.same x := by
  by_cases h : x.rank = y.rank
  · simp only [same, h, beq_self_eq_true, Bool.true_and]
    cases x.negative <;> cases y.negative <;> rfl
  · simp only [same, beq_false_of_ne h, beq_false_of_ne (Ne.symm h), Bool.false_and]

/-- One is the first double of the binade whose spacing is `2^-52`. -/
example : units (1023 * binade) = unitsOfOne := by decide +kernel

/-- The smallest positive double is one unit. -/
example : units 1 = 1 := by decide

end Double

end ServiceBroker
