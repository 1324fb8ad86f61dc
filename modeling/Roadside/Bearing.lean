import Roadside.Fault

/-!
# The side of a road

Traffic that arrives at a node along an edge drives against the edge's outward heading `h`. What lies to the left of
`h` is therefore on the right of that traffic, so a query at offset `v` from the node is on the right iff
`h.cross v` is positive. Stretching the east axis by the cosine of the latitude multiplies every cross product by the
same positive number, and no side changes; the degrees need no projection.

`SideRule.side` answers with the side, and with the rule's own choice where the cross product decides nothing.
-/

namespace Roadside

/-- A side of the road, as seen by arriving traffic. -/
inductive Side where
  | right
  | left
  deriving DecidableEq

namespace Side

def opposite : Side → Side
  | .right => .left
  | .left => .right

@[simp] theorem opposite_opposite (s : Side) : s.opposite.opposite = s := by cases s <;> rfl

def text : Side → String
  | .right => "right"
  | .left => "left"

end Side

/-- How a side is chosen for a query that is on the line of the road or too near to it. -/
structure SideRule (K : Type) where
  /-- The answer for such a query. -/
  tieSide : Side
  /-- Cross products up to this size, in squared degrees, count as on the line. -/
  tolerance : K
  deriving DecidableEq

variable {K : Type} [Scalar K]

namespace SideRule

/-- The sign of the cross product alone decides, and the line itself is on the left. -/
def standard : SideRule K := ⟨.left, Scalar.ofNat 0⟩

/-- The tolerance is finite and not negative. -/
def isSound (rule : SideRule K) : Bool :=
  Scalar.isFinite rule.tolerance && !decide (rule.tolerance < Scalar.ofNat 0)

/-- The rule itself if it is sound. -/
def checked (rule : SideRule K) : Except (Fault K) (SideRule K) :=
  if rule.isSound then .ok rule else .error (.unsoundTolerance rule.tolerance)

end SideRule

/-- The cross product decides nothing: one of the vectors is zero, the product is not finite, or it is within the
tolerance. -/
def SideRule.isTie (rule : SideRule K) (heading offset : Heading K) : Bool :=
  heading.isZero || offset.isZero || !Scalar.isFinite (heading.cross offset) ||
    decide (Scalar.abs (heading.cross offset) ≤ rule.tolerance)

/-- The side on which traffic that arrives against `heading` sees what is at `offset`. -/
def SideRule.side (rule : SideRule K) (heading offset : Heading K) : Side :=
  if rule.isTie heading offset then rule.tieSide
  else if Scalar.ofNat 0 < heading.cross offset then .right
  else .left

end Roadside
