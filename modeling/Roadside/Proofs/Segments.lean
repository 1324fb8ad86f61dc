import Roadside.Proofs.Arms

/-!
# The segments of a map

What a map stores of an edge, put together again as a segment. A packed map has the segments of its draft, each under
its own number (`segment?_build`), and no others (`segments_build`).

A `Ride` is what one comes by on a segment, from one of its ends to the other.
-/

namespace Roadside

variable {K : Type}

namespace RoadMap

/-- An edge with all that is stored of it. -/
def segment? (map : RoadMap K) (edge : EdgeId) : Option (Segment K) := do
  let ends ← map.ends? edge
  let access ← map.access[edge.index]?
  let bends ← map.bends? edge
  return ⟨ends, access, bends⟩

/-- All edges in the order of their numbers. -/
def segments (map : RoadMap K) : List (Option (Segment K)) :=
  (List.range map.edgeCount).map fun i => map.segment? (.ofIndex i)

end RoadMap

/-! ## Rides -/

/-- A ride along an edge: where it starts, where it ends, and the positions on the way, both ends included. -/
structure Ride (K : Type) where
  start : NodeId
  finish : NodeId
  course : List (Option (Point K))

/-- The bends of a segment in the order in which a direction of travel meets them. -/
def Segment.bendsAlong (s : Segment K) : Travel → List (Point K)
  | .forward => s.bends
  | .backward => s.bends.reverse

/-- The ride along a segment in a direction, with the positions of a map. -/
def RoadMap.rideAlong (map : RoadMap K) (s : Segment K) (t : Travel) : Ride K :=
  ⟨s.ends.source t, s.ends.target t,
    map.position? (s.ends.source t) :: (s.bendsAlong t).map some ++ [map.position? (s.ends.target t)]⟩

namespace Draft

theorem segment?_build (d : Draft K) (edge : EdgeId) : d.build.segment? edge = d.segments[edge.index]? := by
  cases h : d.segments[edge.index]? <;>
    simp [RoadMap.segment?, h, show d.build.access = d.segments.map (·.access) from rfl]

/-- A map has the segments of its draft. -/
theorem segments_build {d : Draft K} (fits : d.segments.size ≤ UInt32.size) :
    d.build.segments = d.segments.toList.map some := by
  apply List.ext_getElem?
  intro i
  rw [RoadMap.segments, edgeCount_build, List.getElem?_map, List.getElem?_map, Array.getElem?_toList]
  by_cases h : i < d.segments.size
  · have index : (Ident.ofIndex i : EdgeId).index = i := Ident.index_ofIndex (by omega)
    simp [segment?_build, index, h]
  · simp [h]

end Draft

end Roadside
