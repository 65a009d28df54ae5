import RenderTargets.Number.Single
/-!
# The shortest decimal text of a single

A finite number is written with the fewest digits that read back as the same number.

## Grids

The decimals with last place `10 ^ p` form a grid. The reals that round to a number `x` form an
interval, with both ends if and only if the significand of `x` is even. The text of `x` is taken
from the **coarsest grid with a point in that interval**; of two such points it is the one nearer to
`x`, and of two equally near the larger. If any point of a grid lies in the interval, then so does
one of the two neighbours of `x` on that grid, so only those are tried.

## The written form

Digits are positional for every size, without an exponent, and without a point if there is no
fraction.
-/

namespace RenderTargets.Number

/-- The reals that round to a positive number, scaled by `2 ^ (2 - e)` for its exponent `e`. -/
structure RoundingInterval where
  /-- Lower end. -/
  lo : Nat
  /-- The number itself. -/
  mid : Nat
  /-- Upper end. -/
  hi : Nat
  /-- The ends round to the number too. -/
  closed : Bool
  /-- Power of two of the unit. -/
  unit : Int

/-- The interval of a positive finite number. Below a power of two the neighbour is nearer. -/
def RoundingInterval.of (x : Single) : RoundingInterval :=
  let m := x.significand
  { lo := if x.fractionField = 0 ∧ 1 < x.exponentField then 4 * m - 1 else 4 * m - 2
    mid := 4 * m
    hi := 4 * m + 2
    closed := m % 2 == 0
    unit := x.exponent - 2 }

/-- Numerator and denominator of `2 ^ unit / 10 ^ p`. -/
def gridRatio (unit p : Int) : Nat × Nat :=
  (Nat.pow 2 unit.toNat * Nat.pow 10 (-p).toNat,
    Nat.pow 2 (-unit).toNat * Nat.pow 10 p.toNat)

/-- The point of the grid of `10 ^ p` to write for the interval, if the grid has one in it. -/
def RoundingInterval.point? (i : RoundingInterval) (p : Int) : Option Nat :=
  let (num, den) := gridRatio i.unit p
  let below := i.mid * num / den
  let above := below + 1
  let inside (c : Nat) : Bool :=
    if i.closed then i.lo * num ≤ c * den && c * den ≤ i.hi * num
    else i.lo * num < c * den && c * den < i.hi * num
  match inside below, inside above with
  | true, true => if i.mid * num - below * den < above * den - i.mid * num then below else above
  | true, false => below
  | false, true => above
  | false, false => none

/-- The first grid with a point among those of `10 ^ p`, `10 ^ (p - 1)`, …, as digits and place. -/
def RoundingInterval.search (i : RoundingInterval) : Nat → Int → Nat × Int
  | 0, p => (0, p)
  | n + 1, p =>
    match i.point? p with
    | some c => (c, p)
    | none => i.search n (p - 1)

/-- The digits `c` with the last one at `10 ^ p`, in positional notation. -/
def positional (c : Nat) (p : Int) : String :=
  let digits := Nat.toDigits 10 c
  match p with
  | .ofNat n => String.ofList (digits ++ List.replicate n '0')
  | .negSucc n =>
    let places := n + 1
    let padded := List.replicate (places + 1 - digits.length) '0' ++ digits
    let whole := padded.length - places
    String.ofList (padded.take whole ++ '.' :: padded.drop whole)

end RenderTargets.Number

namespace RenderTargets.Single

open RenderTargets.Number

/-- The shortest decimal text. The largest numbers have 39 digits before the point, the smallest
ones 46 places after it. -/
def toText (x : Single) : String :=
  if x.isNaN then "NaN"
  else
    let size :=
      if !x.isFinite then "inf"
      else if x.significand = 0 then "0"
      else
        let (c, p) := (RoundingInterval.of x).search 90 40
        positional c p
    if x.isNegative then "-" ++ size else size

end RenderTargets.Single
