import ServiceBroker.Double.Basic

/-!
# The shortest decimal of a double

A double is written with the fewest significant digits that read back as it:
a decimal reads back exactly when it lies in the interval of reals that round
to the double, whose ends are the midpoints to the two neighbouring ranks and
belong to it when the rank is even. For one digit, two digits and so on up to
seventeen, `Double.decimalAt` tests the two points of that decimal grid
around the value. The first grid with a hit wins, of two hits the nearer one,
and of two equally near ones the even one.

`Double.Layout` holds what is left to a format: from which exponent to which
the number is written without one.
-/

namespace ServiceBroker.Double

/-- The least number of decimal places `j ≤ fuel` at which `num · 10^j`
reaches `den`. -/
def leadingPlaces (num den : Nat) : Nat → Nat
  | 0 => 0
  | fuel + 1 => if den ≤ num then 0 else leadingPlaces (num * 10) den fuel + 1

/-- The number of decimal digits of a natural number. -/
def digitCount (n : Nat) : Nat := (Nat.toDigits 10 n).length

/-- **The decimal magnitude of a positive rank**: the `p` with
`10^(p-1) ≤ value < 10^p`. -/
def magnitude (rank : Nat) : Int :=
  let whole := units rank / unitsOfOne
  if 0 < whole then digitCount whole
  else 1 - (leadingPlaces (units rank) unitsOfOne 330 : Int)

/-- **The point of the grid `10^exponent` that reads back as the rank**, if one
of the two points around the value does. Numbers are compared in half units,
so that the midpoints to the neighbours are whole. -/
def decimalAt (rank : Nat) (exponent : Int) : Option Nat :=
  let up := Nat.pow 10 (-exponent).toNat
  let down := 2 * unitsOfOne * Nat.pow 10 exponent.toNat
  let value := 2 * units rank * up
  let low := (units (rank - 1) + units rank) * up
  let high := (units rank + units (rank + 1)) * up
  let readsBack (d : Nat) : Bool :=
    if rank % 2 = 0 then low ≤ d * down && d * down ≤ high
    else low < d * down && d * down < high
  let below := value / down
  let above := below + 1
  match readsBack below, readsBack above with
  | true, true =>
    let fromBelow := value - below * down
    let toAbove := above * down - value
    if fromBelow < toAbove then some below
    else if toAbove < fromBelow then some above
    else some (below + below % 2)
  | true, false => some below
  | false, true => some above
  | false, false => none

/-- **The shortest significand and its power of ten** for a positive rank. -/
def shortest (rank : Nat) : Nat × Int :=
  let top := magnitude rank
  let hit := (List.range 17).findSome? fun i =>
    let exponent := top - (i + 1 : Nat)
    (decimalAt rank exponent).map fun d => (d, exponent)
  match hit with
  | some (d, exponent) => if d % 10 = 0 then (d / 10, exponent + 1) else (d, exponent)
  | none => (0, 0)

/-- **What a format decides about a double's text.** -/
structure Layout where
  /-- The least exponent of ten of the leading digit written positionally. -/
  leastPlain : Int
  /-- The greatest exponent of ten of the leading digit written
  positionally. -/
  mostPlain : Int

/-- A positive decimal without an exponent, with one place at least. -/
def plainText (digits : List Char) (exponent : Int) : List Char :=
  let point : Int := digits.length + exponent
  if 0 ≤ exponent then digits ++ List.replicate exponent.toNat '0' ++ ['.', '0']
  else if 0 < point then digits.take point.toNat ++ '.' :: digits.drop point.toNat
  else '0' :: '.' :: (List.replicate (-point).toNat '0' ++ digits)

/-- A positive decimal with one digit before the point, no point if it is the
only digit, and a signed exponent. -/
def exponentText (digits : List Char) (exponent : Int) : List Char :=
  let leading : Int := digits.length + exponent - 1
  let mantissa := match digits with
    | first :: second :: rest => first :: '.' :: second :: rest
    | short => short
  mantissa ++ ['e', if leading < 0 then '-' else '+'] ++ Nat.toDigits 10 leading.natAbs

/-- **The text of a double.** -/
def text (layout : Layout) (x : Double) : List Char :=
  let sign := if x.negative then ['-'] else []
  if x.rank = 0 then sign ++ ['0', '.', '0']
  else
    let (significand, exponent) := shortest x.rank
    let digits := Nat.toDigits 10 significand
    let leading : Int := digits.length + exponent - 1
    if layout.leastPlain ≤ leading ∧ leading ≤ layout.mostPlain then
      sign ++ plainText digits exponent
    else sign ++ exponentText digits exponent

end ServiceBroker.Double
