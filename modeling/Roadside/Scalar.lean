/-!
# The arithmetic of coordinates

The geometry of this library is written over an arbitrary `Scalar`: one definition serves the doubles that positions
come in and the exact rationals, in which the plane keeps its laws without rounding.
-/

namespace Roadside

/-- Numbers that coordinates are made of. Comparisons may fail both ways, as they do for a double that is no number. -/
class Scalar (K : Type) extends Add K, Sub K, Mul K, LE K, LT K where
  /-- The scalar of a whole number. -/
  ofNat : Nat → K
  abs : K → K
  isZero : K → Bool
  isFinite : K → Bool
  decideLE : DecidableLE K
  decideLT : DecidableLT K

namespace Scalar

instance {K : Type} [Scalar K] : DecidableLE K := Scalar.decideLE

instance {K : Type} [Scalar K] : DecidableLT K := Scalar.decideLT

/-- Doubles, with their rounding, both zeros, the infinities and the values that are no number. -/
instance : Scalar Float where
  ofNat := Float.ofNat
  abs := Float.abs
  isZero x := x == 0
  isFinite := Float.isFinite
  decideLE := inferInstance
  decideLT := inferInstance

/-- Exact rationals, all of them finite. -/
instance : Scalar Rat where
  ofNat n := n
  abs := Rat.abs
  isZero x := x == 0
  isFinite _ := true
  decideLE := inferInstance
  decideLT := inferInstance

end Scalar

end Roadside
