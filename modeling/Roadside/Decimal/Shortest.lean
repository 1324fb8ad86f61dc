import Roadside.Decimal.Binary64

/-!
# The shortest decimal of a double

Among the decimals that round to a given double, `shortest` takes one with the fewest digits, and of those the nearest
one; of two equally near ones it takes the greater.

A decimal rounds to the double iff it lies between the midpoints to the neighbouring doubles, and on a midpoint iff
the double's significand is even. On the grid of the multiples of a power of ten only the two neighbours of the double
have to be looked at, so the coarsest grid with a hit gives the answer.
-/

namespace Roadside.Decimal

/-- The number `value * 10 ^ exponent`. -/
structure Scaled where
  value : Nat
  exponent : Int
  deriving DecidableEq

/-- The best multiple of `10 ^ k` that rounds to the positive double `m * 2 ^ q`, if there is one. With
`unit = 2 ^ (q - 2)` the double is `4 * m` units, and the midpoints lie two units off, below a power of two one. -/
def onGrid? (m : Nat) (q k : Int) : Option Scaled :=
  let unit := Nat.pow 2 (q - 2).toNat * Nat.pow 10 (-k).toNat
  let step := Nat.pow 2 (2 - q).toNat * Nat.pow 10 k.toNat
  let low := (4 * m - if m = Binary64.hidden ∧ -1074 < q then 1 else 2) * unit
  let high := (4 * m + 2) * unit
  let rounds (d : Nat) : Bool :=
    if m % 2 = 0 then low ≤ d * step && d * step ≤ high else low < d * step && d * step < high
  let below := 4 * m * unit / step
  let nearBelow := 2 * (4 * m * unit - below * step) < step
  if rounds below && (nearBelow || !rounds (below + 1)) then some ⟨below, k⟩
  else if rounds (below + 1) then some ⟨below + 1, k⟩
  else none

/-- A power of ten that is not below the leading digit of `m * 2 ^ q`; `0.30103` is a little more than the decimal
logarithm of two. -/
def leadingExponent (m : Nat) (q : Int) : Int := (Nat.log2 m + q + 1) * 30103 / 100000 + 1

/-- The shortest decimal that rounds to the positive double `m * 2 ^ q`. Seventeen digits always suffice, so one of the
grids has a hit. -/
def shortest (m : Nat) (q : Int) : Scaled :=
  ((List.range 21).findSome? fun (i : Nat) => onGrid? m q (leadingExponent m q - i)).getD ⟨m, 0⟩

end Roadside.Decimal
