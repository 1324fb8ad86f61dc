import Roadside.Bearing
import Roadside.Directions
import Roadside.Neighborhood

/-!
# The layout of a node

What can be said about a node depends on how its arms lie, not on where the traveller wants to go. `Layout` names the
cases, `Neighborhood.layout` finds the case, and `Layout.directions` reads the answer off it once the side of the query
is known for each arm.

| Arms                                                     | Layout     |
|----------------------------------------------------------|------------|
| none to arrive on, or none to leave on                   | `closed`   |
| three or more                                            | `free`     |
| two that lead to the same node                           | `free`     |
| two, one of them shut                                    | `deadEnd`  |
| two, both open both ways                                 | `twoWay`   |
| two, one to arrive on and the other to leave on          | `oneWay`   |
| one                                                      | `deadEnd`  |

The first row that fits decides.
-/

namespace Roadside

variable {K : Type}

/-- The ways in which the arms of a node can lie. -/
inductive Layout (K : Type) where
  /-- Traffic cannot arrive, or cannot leave. -/
  | closed
  /-- The arms single out no pairing. -/
  | free
  /-- One arm serves to arrive and to leave. -/
  | deadEnd (arm : Arm K)
  /-- Traffic arrives on the first arm and leaves on the second. -/
  | oneWay (arrive depart : Arm K)
  /-- Traffic passes from each arm to the other. -/
  | twoWay (first second : Arm K)

namespace Layout

/-- The layout of two open or shut arms to different nodes. -/
def ofPair (a b : Arm K) : Layout K :=
  if !a.isOpen then .deadEnd b
  else if !b.isOpen then .deadEnd a
  else if a.usage = .both ∧ b.usage = .both then .twoWay a b
  else if !a.usage.leave || !b.usage.arrive then .oneWay a b
  else .oneWay b a

/-- The arm whose arriving traffic the sides are named for. -/
def reference? : Layout K → Option (Arm K)
  | .oneWay arm _ | .twoWay arm _ => some arm
  | .closed | .free | .deadEnd _ => none

/-- The directions at a node of this layout, where `side` tells on which side the traffic arriving on an arm sees the
query. -/
def directions (side : Arm K → Side) : Layout K → Directions
  | .closed => .impossible
  | .free => .unrestricted
  | .deadEnd arm => .both (.uTurn arm.edge) (.uTurn arm.edge)
  | .oneWay a b => .only (side a) ⟨a.edge, b.edge⟩
  | .twoWay a b => .paired (side a) ⟨a.edge, b.edge⟩ ⟨b.edge, a.edge⟩

end Layout

def Neighborhood.layout (n : Neighborhood K) : Layout K :=
  if n.arrivals = 0 ∨ n.departures = 0 then .closed
  else match n.arms with
    | [] => .closed
    | [a] => .deadEnd a
    | [a, b] => if a.far = b.far then .free else .ofPair a b
    | _ => .free

/-- The side on which the traffic arriving on an arm sees the query. -/
def Neighborhood.sideFrom [Scalar K] (n : Neighborhood K) (rule : SideRule K) (query : Point K) (arm : Arm K) : Side :=
  rule.side (n.position.headingTo arm.anchor) (n.position.headingTo query)

def Neighborhood.directions [Scalar K] (n : Neighborhood K) (rule : SideRule K) (query : Point K) : Directions :=
  n.layout.directions (n.sideFrom rule query)

end Roadside
