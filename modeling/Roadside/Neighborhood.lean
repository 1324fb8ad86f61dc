import Roadside.Ident
import Roadside.Plane
import Roadside.Traffic

/-!
# A node and its edges

An `Incidence` is an edge as the map lists it at one node, an `Arm` is the same edge once it is known what it may be
used for, and a `Neighborhood` is a node with all its arms. An edge that leads back to its own node is listed twice,
and parallel edges are listed one by one.
-/

namespace Roadside

variable {K : Type}

/-- An edge as it is listed at one of its ends. -/
structure Incidence (K : Type) where
  edge : EdgeId
  /-- The node at the other end. -/
  far : NodeId
  /-- The direction of travel that leads away from the node. -/
  outward : Travel
  /-- The first point of the edge's course on the way out. -/
  anchor : Point K
  deriving DecidableEq

/-- The direction of travel that leads to the node. -/
def Incidence.inward (i : Incidence K) : Travel := i.outward.reverse

/-- An edge at a node together with what it may be used for there. -/
structure Arm (K : Type) where
  edge : EdgeId
  far : NodeId
  usage : Usage
  anchor : Point K
  deriving DecidableEq

namespace Arm

def isOpen (a : Arm K) : Bool := a.usage.isOpen

end Arm

/-- The arm of a listed edge, given what may be driven. -/
def Incidence.arm (i : Incidence K) (allows : EdgeId → Travel → Bool) : Arm K :=
  ⟨i.edge, i.far, ⟨allows i.edge i.inward, allows i.edge i.outward⟩, i.anchor⟩

/-- A node with everything that matters for driving through it. -/
structure Neighborhood (K : Type) where
  node : NodeId
  position : Point K
  /-- One arm for each listed edge, in the order of the list. -/
  arms : List (Arm K)
  deriving DecidableEq

namespace Neighborhood

def arrivals (n : Neighborhood K) : Nat := n.arms.countP (·.usage.arrive)

def departures (n : Neighborhood K) : Nat := n.arms.countP (·.usage.leave)

/-- There are at least two arms, and all lead to the same node. -/
def hasOneNeighbor (n : Neighborhood K) : Bool :=
  match n.arms with
  | a :: b :: rest => (b :: rest).all (·.far = a.far)
  | _ => false

end Neighborhood

end Roadside
