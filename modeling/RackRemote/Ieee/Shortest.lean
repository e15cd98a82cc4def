import RackRemote.Ieee.Basic
/-!
# The shortest decimal that reads back

`shortest m q` finds, for the binary64 value `m * 2 ^ q`, the decimal with the fewest digits inside
the interval of reals that round to it, and among those the nearest; of two equally near ones it
takes the larger. `Binary64.text` writes it in positional notation.
-/

namespace RackRemote

/-- A decimal `digits * 10 ^ power`. -/
structure Decimal where
  digits : Nat
  power : Int
deriving DecidableEq, Repr

namespace Decimal

/-- `digits * 10 ^ power` as a quotient of naturals. -/
def ratio (d : Decimal) : Nat × Nat :=
  if 0 ≤ d.power then (d.digits * Nat.pow 10 d.power.toNat, 1)
  else (d.digits, Nat.pow 10 (-d.power).toNat)

/-- Removes trailing zeros of the digits, at most `fuel` of them. -/
def trim : Nat → Decimal → Decimal
  | 0, d => d
  | fuel + 1, d =>
    if d.digits % 10 = 0 then trim fuel ⟨d.digits / 10, d.power + 1⟩ else d

/-- Positional notation, with a point only where the value has a fractional part. -/
def positional (d : Decimal) : String :=
  let text := d.digits.repr
  if 0 ≤ d.power then text ++ String.ofList (List.replicate d.power.toNat '0')
  else
    let places := (-d.power).toNat
    if text.length ≤ places then
      "0." ++ String.ofList (List.replicate (places - text.length) '0') ++ text
    else
      let (whole, rest) := text.toList.splitAt (text.length - places)
      String.ofList whole ++ "." ++ String.ofList rest

end Decimal

/-- The reals between the midpoints to the neighbours of a binary64 value, as bounds over a common
denominator. The bounds themselves belong to it when the significand is even. -/
structure RoundingInterval where
  value : Nat
  low : Nat
  high : Nat
  den : Nat
  closed : Bool

namespace RoundingInterval

/-- The interval around `m * 2 ^ q`. The gap below a power of two is half the gap above it. -/
def of (m : Nat) (q : Int) : RoundingInterval :=
  let below := if m = 1 <<< 52 ∧ -1074 < q then 1 else 2
  { value := (4 * m) <<< q.toNat
    low := (4 * m - below) <<< q.toNat
    high := (4 * m + 2) <<< q.toNat
    den := 4 <<< (-q).toNat
    closed := m % 2 == 0 }

/-- Whether a decimal lies in the interval. -/
def admits (i : RoundingInterval) (d : Decimal) : Bool :=
  let (num, den) := d.ratio
  let scaled := num * i.den
  if i.closed then i.low * den ≤ scaled && scaled ≤ i.high * den
  else i.low * den < scaled && scaled < i.high * den

/-- The two neighbours of the value on the grid of multiples of `10 ^ power`. -/
def neighbours (i : RoundingInterval) (power : Int) : Decimal × Decimal :=
  let n :=
    if 0 ≤ power then i.value / (i.den * Nat.pow 10 power.toNat)
    else i.value * Nat.pow 10 (-power).toNat / i.den
  (⟨n, power⟩, ⟨n + 1, power⟩)

/-- Whether the upper neighbour is at least as near to the value as the lower one. -/
def upperNearer (i : RoundingInterval) (lower : Decimal) : Bool :=
  let (num, den) := (Decimal.mk (2 * lower.digits + 1) lower.power).ratio
  num * i.den ≤ 2 * i.value * den

/-- The decimal of the interval on one grid, if the grid has one there. -/
def onGrid? (i : RoundingInterval) (power : Int) : Option Decimal :=
  let (lower, upper) := i.neighbours power
  match i.admits lower, i.admits upper with
  | true, true => some (if i.upperNearer lower then upper else lower)
  | true, false => some lower
  | false, true => some upper
  | false, false => none

/-- The power of ten of the leading digit of the value, found from the length of its whole part or
of the zeros behind its point. -/
def leadingPower (i : RoundingInterval) : Int :=
  if i.den ≤ i.value then ((i.value / i.den).repr.length : Int) - 1
  else
    let inverse := (i.den + i.value - 1) / i.value
    if inverse = Nat.pow 10 (inverse.repr.length - 1) then 1 - (inverse.repr.length : Int)
    else -(inverse.repr.length : Int)

/-- The first grid with a decimal in the interval, from one digit on. -/
def search (i : RoundingInterval) (top : Int) : Nat → Nat → Decimal
  | 0, n => (i.neighbours (top - n)).1
  | fuel + 1, n =>
    match i.onGrid? (top - n) with
    | some d => d
    | none => search i top fuel (n + 1)

end RoundingInterval

/-- The shortest decimal that reads back as `m * 2 ^ q`: 17 digits always suffice. -/
def shortest (m : Nat) (q : Int) : Decimal :=
  let i := RoundingInterval.of m q
  (i.search i.leadingPower 17 0).trim 18

/-- Positional text of a number: the fewest digits that read back, no exponent, no point at the
end. -/
def Binary64.text (x : Binary64) : String :=
  if x.isNaN then "NaN"
  else
    let sign := if x.negative then "-" else ""
    if x.isInfinite then sign ++ "inf"
    else if x.isZero then sign ++ "0"
    else sign ++ (shortest x.significand x.scale).positional

end RackRemote
