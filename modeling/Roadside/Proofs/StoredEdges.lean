import Roadside.Proofs.Growth
import Roadside.Proofs.Incidences
import Roadside.Proofs.Segments

/-!
# Edges as they were added

A map keeps of every edge what its script said when the edge was added. The bends of all edges lie in one array, one row
behind the other, and what a node lists of an edge is read off its row at the end where the edge leads away.

* **The second point of a ride** is the first bend on the way, or the place where the ride ends
  (`getElem?_course_one`).
* **Edges are kept as they were added** (`keepsAdded_mapOf`): each edge has the ends, the access and the bends that were
  given with it, and the anchor of a listed edge is the second point of the ride away from the node.
-/

namespace Roadside

variable {K : Type}

/-! ## Rides away from a node -/

theorem Segment.head?_bendsAlong (s : Segment K) (t : Travel) : (s.bendsAlong t).head? = s.bend? t := by
  cases t with
  | forward => rfl
  | backward => exact List.head?_reverse

/-- After its start, a ride comes to the first bend in its direction, or else to its finish. -/
theorem RoadMap.getElem?_course_one (map : RoadMap K) (s : Segment K) (t : Travel) :
    (map.rideAlong s t).course[1]? = some (s.bend? t <|> map.position? (s.ends.target t)) := by
  rw [← s.head?_bendsAlong, rideAlong]
  cases s.bendsAlong t with
  | nil => rfl
  | cons bend more => rfl

/-- What a node lists of an edge is how the ride along it begins that leads away from the node. -/
structure Incidence.BeginsRide (i : Incidence K) (map : RoadMap K) (node : NodeId) (s : Segment K) : Prop where
  edge : map.segment? i.edge = some s
  start : (map.rideAlong s i.outward).start = node
  finish : (map.rideAlong s i.outward).finish = i.far
  second : (map.rideAlong s i.outward).course[1]? = some (some i.anchor)
  /-- The second point is a bend of the edge if it has any, and otherwise its other end. -/
  anchor : some i.anchor = match i.outward with
    | .forward => s.bends.head? <|> map.position? s.ends.finish
    | .backward => s.bends.getLast? <|> map.position? s.ends.start

/-! ## What a map keeps -/

/-- The map keeps of its edges what was said when they were added; the transcript has the steps and the replies. -/
structure RoadMap.KeepsAdded (map : RoadMap K) (transcript : List (Step K × Reply)) : Prop where
  ends : ∀ s edge, (.segment s, .edge edge) ∈ transcript → map.ends? edge = some s.ends
  access : ∀ s edge, (.segment s, .edge edge) ∈ transcript → map.access[edge.index]? = some s.access
  bends : ∀ s edge, (.segment s, .edge edge) ∈ transcript → map.bends? edge = some s.bends
  straight : ∀ start finish access edge, (.segment (.straight start finish access), .edge edge) ∈ transcript →
    map.bends? edge = some []
  /-- There is one start of a row of bends for each edge, and the end. -/
  size : map.bends.starts.size = map.edgeCount + 1
  first : map.bends.starts[0]? = some 0
  monotone : ∀ i j start stop : Nat, i ≤ j → map.bends.starts[i]? = some start → map.bends.starts[j]? = some stop →
    start ≤ stop
  last : map.bends.starts[map.edgeCount]? = some map.bends.items.size
  listed : ∀ (node : NodeId) (i : Incidence K), i ∈ map.incidences node → ∃ s, i.BeginsRide map node s
  /-- Each direction of an edge is listed where it leads away from, both of them at one node if the edge leads back. -/
  both : ∀ edge ends t, map.ends? edge = some ends → ∃ i ∈ map.incidences (ends.source t), i.edge = edge ∧ i.outward = t

namespace Draft

variable {d : Draft K}

theorem bends_build (d : Draft K) : d.build.bends = .ofRows (d.segments.toList.map (·.bends)) := rfl

theorem length_rows_bends (d : Draft K) : (d.segments.toList.map (·.bends)).length = d.build.edgeCount := by
  rw [List.length_map, Array.length_toList, edgeCount_build]

section Numbered

variable (fits : d.segments.size ≤ UInt32.size)
include fits

theorem exists_beginsRide {node : NodeId} {i : Incidence K} (h : i ∈ d.build.incidences node) :
    ∃ s, i.BeginsRide d.build node s := by
  obtain ⟨k, s, t, here, source, listed⟩ := (mem_incidences_build fits).1 h
  obtain ⟨anchor, ha, rfl⟩ := Option.map_eq_some_iff.1 listed
  refine ⟨s, ?_⟩
  constructor
  case edge => rw [segment?_build, index_of_getElem? fits here, here]
  case start => exact source
  case finish => rfl
  case second =>
    rw [RoadMap.getElem?_course_one, position?_build]
    exact congrArg some ha
  case anchor =>
    cases t with
    | forward => exact ha.symm
    | backward => exact ha.symm

/-- The directions of an edge are listed at its ends. -/
theorem exists_incidence_of_ends? {edge : EdgeId} {ends : Ends} (h : d.build.ends? edge = some ends) (t : Travel) :
    ∃ i ∈ d.build.incidences (ends.source t), i.edge = edge ∧ i.outward = t := by
  obtain ⟨i, listed, number, -, outward⟩ := (listsEnds_build fits _ _ edge t).2 ⟨ends, h, rfl, rfl⟩
  exact ⟨i, listed, number, outward⟩

end Numbered

/-- The reply to a segment that is added is its number in the packed map. -/
theorem getElem?_index_of_reply {script : List (Step K)} {s : Segment K} {edge : EdgeId}
    (h : (.segment s, .edge edge) ∈ d.transcript script) (fits : (d.run script).2.segments.size ≤ UInt32.size) :
    (d.run script).2.segments[edge.index]? = some s := by
  obtain ⟨k, rfl, here⟩ := getElem?_of_reply h
  rwa [index_of_getElem? fits here]

end Draft

/-- **Edges are kept as they were added**: the map that a script makes has the edges that the replies number, each as it
was given, and every node lists how the rides begin that lead away from it. -/
theorem keepsAdded_mapOf (script : List (Step K)) (fits : (mapOf script).Fits) :
    (mapOf script).KeepsAdded (Draft.empty.transcript script) := by
  have numbered := Draft.size_segments_le fits
  have here (s : Segment K) (edge : EdgeId) (added : (.segment s, .edge edge) ∈ Draft.empty.transcript script) :
      (Draft.empty.run script).2.segments[edge.index]? = some s := Draft.getElem?_index_of_reply added numbered
  have bends (s : Segment K) (edge : EdgeId) (added : (.segment s, .edge edge) ∈ Draft.empty.transcript script) :
      (mapOf script).bends? edge = some s.bends := by
    rw [mapOf, Draft.bends?_build, here s edge added, Option.map_some]
  constructor
  case ends =>
    intro s edge added
    rw [mapOf, Draft.ends?_build, here s edge added, Option.map_some]
  case access =>
    intro s edge added
    simp [mapOf, Draft.build, here s edge added]
  case bends => exact bends
  case straight => exact fun start finish access edge => bends (.straight start finish access) edge
  case size => rw [mapOf, Draft.bends_build, Ragged.size_starts_ofRows, Draft.length_rows_bends]
  case first => exact Ragged.getElem?_starts_ofRows_zero _
  case monotone => exact fun i j start stop => Ragged.starts_ofRows_mono
  case last =>
    rw [mapOf, Draft.bends_build, ← Draft.length_rows_bends]
    exact Ragged.getElem?_starts_ofRows_length _
  case listed => exact fun node i => Draft.exists_beginsRide numbered
  case both => exact fun edge ends t h => Draft.exists_incidence_of_ends? numbered h t

/-- A bent road, an edge that is refused, a straight road beside the first one, and a loop at its end. -/
def bentRoads : List (Step Rat) :=
  [.node ⟨0, 0⟩, .node ⟨0, 1⟩, .segment ⟨⟨⟨0⟩, ⟨1⟩⟩, .both, [⟨1, 0⟩, ⟨1, 1⟩]⟩, .segment (.straight ⟨1⟩ ⟨2⟩ .both),
    .segment (.straight ⟨1⟩ ⟨0⟩ .forwardOnly), .segment ⟨⟨⟨1⟩, ⟨1⟩⟩, .closed, [⟨0, 2⟩, ⟨1, 2⟩]⟩]

theorem keepsAdded_mapOf_bentRoads : (mapOf bentRoads).Fits ∧
    (mapOf bentRoads).KeepsAdded (Draft.empty.transcript bentRoads) :=
  have fits : (mapOf bentRoads).Fits := by decide +kernel
  ⟨fits, keepsAdded_mapOf bentRoads fits⟩

example : (mapOf bentRoads).incidences ⟨1⟩ =
    [⟨⟨0⟩, ⟨0⟩, .backward, ⟨1, 1⟩⟩, ⟨⟨1⟩, ⟨0⟩, .forward, ⟨0, 0⟩⟩, ⟨⟨2⟩, ⟨1⟩, .forward, ⟨0, 2⟩⟩,
      ⟨⟨2⟩, ⟨1⟩, .backward, ⟨1, 2⟩⟩] := by decide +kernel

end Roadside
