import Roadside.Ragged
import Roadside.Resolution

/-!
# Road maps

A road map in memory: every edge is stored once, with its two ends, the directions in which it is open and the points
where it bends. Beside them each node has a row of slots, one for each end of an edge that lies there. Slots and bends
are packed rows, so a map is a handful of flat arrays.

* A look-up outside the map has no result (`ends?`, `bends?`, `position?`), an unknown node has no slots, and an
  unknown edge is shut.
* `RoadMap.incidences` lists the edges at a node in the order of their numbers; an edge from a node to itself is listed
  twice, once for each direction in which it leaves.
* `RoadMap.view` and `RoadMap.allows` make the map answer the resolution of directions.
-/

namespace Roadside

variable {K : Type}

/-- The two nodes that an edge joins, in the order in which it is stored. -/
structure Ends where
  start : NodeId
  finish : NodeId
  deriving DecidableEq

namespace Ends

/-- The node that a direction of travel leads to. -/
def target (e : Ends) : Travel → NodeId
  | .forward => e.finish
  | .backward => e.start

/-- The node that a direction of travel comes from. -/
def source (e : Ends) (t : Travel) : NodeId := e.target t.reverse

end Ends

/-- One end of an edge at a node. -/
structure Slot where
  edge : EdgeId
  /-- The direction of travel that leads away from the node. -/
  outward : Travel
  deriving DecidableEq

/-- A road map. Arrays are indexed by the numbers of nodes or of edges. -/
structure RoadMap (K : Type) where
  positions : Array (Point K)
  /-- The ends of edges at each node. -/
  slots : Ragged Slot
  ends : Array Ends
  access : Array Access
  /-- The points between the ends of each edge, from its start to its finish. -/
  bends : Ragged (Point K)
  deriving DecidableEq

namespace RoadMap

/-! ## Looking up -/

def nodeCount (map : RoadMap K) : Nat := map.positions.size

def edgeCount (map : RoadMap K) : Nat := map.ends.size

/-- The numbers of nodes, of slots and of bends fit 32 bits. -/
structure Fits (map : RoadMap K) : Prop where
  nodes : map.nodeCount < UInt32.size
  slots : 2 * map.edgeCount < UInt32.size
  bends : map.bends.items.size < UInt32.size

instance (map : RoadMap K) : Decidable map.Fits :=
  decidable_of_iff (map.nodeCount < UInt32.size ∧ 2 * map.edgeCount < UInt32.size ∧
    map.bends.items.size < UInt32.size) ⟨fun h => ⟨h.1, h.2.1, h.2.2⟩, fun h => ⟨h.1, h.2, h.3⟩⟩

def position? (map : RoadMap K) (node : NodeId) : Option (Point K) := map.positions[node.index]?

def ends? (map : RoadMap K) (edge : EdgeId) : Option Ends := map.ends[edge.index]?

def bends? (map : RoadMap K) (edge : EdgeId) : Option (List (Point K)) := map.bends.row? edge.index

def allows (map : RoadMap K) : Openness := fun edge travel =>
  (map.access[edge.index]?).any (·.allows travel)

/-- The map with other access to one of its edges. -/
def setAccess? (map : RoadMap K) (edge : EdgeId) (access : Access) : Option (RoadMap K) :=
  if h : edge.index < map.access.size then some { map with access := map.access.set edge.index access h } else none

/-! ## The edges at a node -/

/-- The slots of a node; an unknown node has none. -/
def slotsAt (map : RoadMap K) (node : NodeId) : List Slot := (map.slots.row? node.index).getD []

def degree (map : RoadMap K) (node : NodeId) : Nat := (map.slotsAt node).length

/-- The first point of an edge's course in a direction: its first bend that way, or else the node it leads to. -/
def anchor? (map : RoadMap K) (edge : EdgeId) (travel : Travel) : Option (Point K) := do
  let ends ← map.ends? edge
  let bends ← map.bends? edge
  let first := match travel with
    | .forward => bends.head?
    | .backward => bends.getLast?
  first <|> map.position? (ends.target travel)

/-- What a slot says about its edge. -/
def incidence? (map : RoadMap K) (slot : Slot) : Option (Incidence K) := do
  let ends ← map.ends? slot.edge
  let anchor ← map.anchor? slot.edge slot.outward
  return ⟨slot.edge, ends.target slot.outward, slot.outward, anchor⟩

/-- The edges at a node, in the order of their numbers. -/
def incidences (map : RoadMap K) (node : NodeId) : List (Incidence K) := (map.slotsAt node).filterMap map.incidence?

/-- The map as the resolution of directions sees it. -/
def view (map : RoadMap K) : RoadView K := ⟨map.position?, map.incidences⟩

/-- The first edge by which one may drive from a node straight to another. -/
def findEdge? (map : RoadMap K) (start finish : NodeId) : Option EdgeId :=
  ((map.incidences start).find? fun i => i.far = finish && map.allows i.edge i.outward).map (·.edge)

end RoadMap

end Roadside
