import Roadside.Scalar

/-!
# Points and headings

A position is a latitude and a longitude in degrees. Around one node the degrees are taken for a plane with the
longitude to the east and the latitude to the north, and a `Heading` is a vector of that plane.
-/

namespace Roadside

/-- A position in degrees. -/
structure Point (K : Type) where
  lat : K
  lon : K
  deriving DecidableEq

/-- A vector in degrees, `dx` to the east and `dy` to the north. -/
structure Heading (K : Type) where
  dx : K
  dy : K
  deriving DecidableEq

variable {K : Type} [Scalar K]

namespace Point

/-- Both components are finite, the latitude lies within 90 degrees and the longitude within 180. -/
def isOnGlobe (p : Point K) : Bool :=
  Scalar.isFinite p.lat && Scalar.isFinite p.lon &&
    decide (Scalar.abs p.lat ≤ Scalar.ofNat 90) && decide (Scalar.abs p.lon ≤ Scalar.ofNat 180)

/-- The vector from one point to another. -/
def headingTo (p q : Point K) : Heading K := ⟨q.lon - p.lon, q.lat - p.lat⟩

/-- The square of the distance between two points of the plane. -/
def squaredDistance (p q : Point K) : K :=
  (p.lat - q.lat) * (p.lat - q.lat) + (p.lon - q.lon) * (p.lon - q.lon)

end Point

namespace Heading

/-- Positive iff `v` points to the left of `h` as seen along `h`. -/
def cross (h v : Heading K) : K := h.dx * v.dy - h.dy * v.dx

def isZero (h : Heading K) : Bool := Scalar.isZero h.dx && Scalar.isZero h.dy

end Heading

end Roadside
