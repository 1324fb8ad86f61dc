import Mathlib.Data.List.Basic
import Roadside.Proofs.Layout
import Roadside.Proofs.Slots

/-!
# What a map lists at a node

The edges that a packed map lists at a node are what its draft says there: one goes through the segments in order, and
each segment is listed once for every end that lies at the node (`incidences_build`). Read with the map's own openness,
this gives the arms of the node (`armsAt_build`), and looking for an edge between two nodes is looking through the arms
(`findEdge?_eq`).
-/

namespace Roadside

variable {K : Type}

/-! ## Segments seen from their ends -/

namespace Segment

/-- The directions in which the segment leads away from a node. -/
def outwards (s : Segment K) (node : NodeId) : List Travel :=
  (if s.ends.start = node then [.forward] else []) ++ if s.ends.finish = node then [.backward] else []

/-- The first bend in a direction. -/
def bend? (s : Segment K) : Travel → Option (Point K)
  | .forward => s.bends.head?
  | .backward => s.bends.getLast?

theorem slotsAt_eq (s : Segment K) (edge : EdgeId) (node : NodeId) :
    s.ends.slotsAt edge node = (s.outwards node).map fun t => ⟨edge, t⟩ := by
  by_cases hs : s.ends.start = node <;> by_cases hf : s.ends.finish = node <;>
    simp [Ends.slotsAt, outwards, hs, hf]

end Segment

namespace Draft

/-- The first point of a segment's course in a direction: its first bend that way, or else the node it leads to. -/
def anchor? (d : Draft K) (s : Segment K) (t : Travel) : Option (Point K) :=
  s.bend? t <|> d.position? (s.ends.target t)

/-- A segment's course has a first point in both directions, since the draft has the nodes at its ends. -/
theorem exists_anchor? {d : Draft K} {s : Segment K} (h : s ∈ d.segments) (t : Travel) :
    ∃ anchor, d.anchor? s t = some anchor := by
  have ends := d.ends_lt s h
  have known : (s.ends.target t).index < d.positions.size := by
    cases t
    · exact ends.2
    · exact ends.1
  apply Option.isSome_iff_exists.1
  simp [anchor?, position?, known]

/-- What is listed of the segment with number `i` at the end from which direction `t` leads away. -/
def incidence? (d : Draft K) (s : Segment K) (i : Nat) (t : Travel) : Option (Incidence K) :=
  (d.anchor? s t).map fun anchor => ⟨.ofIndex i, s.ends.target t, t, anchor⟩

/-- The same as an arm, under the segment's own access. -/
def arm? (d : Draft K) (s : Segment K) (i : Nat) (t : Travel) : Option (Arm K) :=
  (d.anchor? s t).map fun anchor =>
    ⟨.ofIndex i, s.ends.target t, ⟨s.access.allows t.reverse, s.access.allows t⟩, anchor⟩

/-- The arms that a segment has at a node. -/
def arms (d : Draft K) (s : Segment K) (i : Nat) (node : NodeId) : List (Arm K) :=
  (s.outwards node).filterMap (d.arm? s i)

/-! ## Packed maps -/

section Packed

variable {d : Draft K} {i : Nat} {s : Segment K}

theorem anchor?_build {edge : EdgeId} (h : d.segments[edge.index]? = some s) (t : Travel) :
    d.build.anchor? edge t = d.anchor? s t := by
  cases t <;> simp [RoadMap.anchor?, anchor?, h, Segment.bend?]

theorem allows_build {edge : EdgeId} (h : d.segments[edge.index]? = some s) (t : Travel) :
    d.build.allows edge t = s.access.allows t := by
  simp [RoadMap.allows, build, h]

variable (fits : d.segments.size ≤ UInt32.size)
include fits

theorem index_of_getElem? (h : d.segments[i]? = some s) : (Ident.ofIndex i : EdgeId).index = i := by
  obtain ⟨hi, -⟩ := Array.getElem?_eq_some_iff.1 h
  exact Ident.index_ofIndex (by omega)

theorem incidence?_build (h : d.segments[i]? = some s) (t : Travel) :
    d.build.incidence? ⟨.ofIndex i, t⟩ = d.incidence? s i t := by
  have hs : d.segments[(Ident.ofIndex i : EdgeId).index]? = some s := by rwa [index_of_getElem? fits h]
  rw [RoadMap.incidence?, incidence?, ends?_build, hs, Option.map_some, Option.map_eq_bind, anchor?_build hs]
  rfl

/-- A node lists the segments in order, each once for every end there. -/
theorem incidences_build (node : NodeId) :
    d.build.incidences node =
      d.segments.toList.zipIdx.flatMap fun (s, i) => (s.outwards node).filterMap (d.incidence? s i) := by
  rw [RoadMap.incidences, slotsAt_eq, RoadMap.slotsByEdge, List.filterMap_flatMap]
  simp only [show d.build.ends = d.segments.map (·.ends) from rfl, Array.toList_map, List.zipIdx_map, List.flatMap_map]
  refine List.flatMap_congr fun entry h => ?_
  obtain ⟨s, i⟩ := entry
  rw [List.mem_zipIdx_iff_getElem?, Array.getElem?_toList] at h
  simp only [Prod.map_fst, Prod.map_snd, id_eq, Segment.slotsAt_eq, List.filterMap_map]
  exact List.filterMap_congr fun t _ => incidence?_build fits h t

end Packed

end Draft

/-! ## Arms -/

/-- The arms of a node, under the map's own access. -/
def RoadMap.armsAt (map : RoadMap K) (node : NodeId) : List (Arm K) := (map.incidences node).map (·.arm map.allows)

/-- A node lists the arms of the segments in order, each once for every end there. -/
theorem Draft.armsAt_build {d : Draft K} (fits : d.segments.size ≤ UInt32.size) (node : NodeId) :
    d.build.armsAt node = d.segments.toList.zipIdx.flatMap fun (s, i) => d.arms s i node := by
  rw [RoadMap.armsAt, incidences_build fits, List.map_flatMap]
  refine List.flatMap_congr fun entry h => ?_
  obtain ⟨s, i⟩ := entry
  rw [List.mem_zipIdx_iff_getElem?, Array.getElem?_toList] at h
  have hs : d.segments[(Ident.ofIndex i : EdgeId).index]? = some s := by rwa [index_of_getElem? fits h]
  simp only [arms, List.map_filterMap]
  refine List.filterMap_congr fun t _ => ?_
  cases ha : d.anchor? s t with
  | none => simp [incidence?, arm?, ha]
  | some anchor => simp [incidence?, arm?, ha, Incidence.arm, Incidence.inward, allows_build hs]

/-- An edge is found among the arms of the node that it is to lead away from. -/
theorem RoadMap.findEdge?_eq (map : RoadMap K) (start finish : NodeId) :
    map.findEdge? start finish =
      ((map.armsAt start).find? fun a => a.far = finish && a.usage.leave).map (·.edge) := by
  rw [findEdge?, armsAt, List.find?_map, Option.map_map]
  rfl

end Roadside
