import Roadside.Proofs.OpenStreetMap.Lines
import Roadside.Proofs.OpenStreetMap.Size
import Roadside.Proofs.Segments

/-!
# The geometry of ways

The edges of an extract's map come in blocks, one for each kept way in the order of the extract. Walking along a block
is walking along the way.

* **A map draws the ways** (`roadMap_drawsWays`): every extract has a map, whose edges divide into one block for each
  kept way, and the blocks lead through the known nodes of their ways, without losing, repeating or reordering any.
-/

namespace Roadside

variable {K : Type}

/-- The positions on a walk along segments: where it starts, and then the bends of each segment and where it ends. -/
def RoadMap.course (map : RoadMap K) : List (Segment K) → List (Option (Point K))
  | [] => []
  | s :: more => map.position? s.ends.start ::
    (s :: more).flatMap fun s => s.bends.map some ++ [map.position? s.ends.finish]

namespace OpenStreetMap

/-- The block of edges draws the way. -/
structure DrawsWay (elements : List Element) (map : RoadMap Float) (w : Way × String) (block : List (Segment Float)) :
    Prop where
  drawn : block ≠ []
  /-- Each edge starts at the node where the one before it ends. -/
  joined : block.IsChain fun s t => s.ends.finish = t.ends.start
  /-- The edges lead through the known nodes of the way, each where its last element puts it. -/
  course : map.course block = (knownRefs elements w.1.refs).map (lastPosition? elements)
  access : ∀ s ∈ block, s.access = Tags.access w.1.tags w.2

/-! ## The block of a way -/

/-- The edges that the stretches of a course become. -/
def Course.block (c : Course) (isCut : Vertex → Bool) (order : List Vertex) : List (Segment Float) :=
  (stretches isCut c.vertices).map (·.segment order c.road.access)

section Block

variable {map : RoadMap Float} {isCut : Vertex → Bool} {order : List Vertex}

/-- Walking along the stretches of a line is walking along the line, if their ends have become nodes in their places. -/
theorem course_block {c : Course} (long : 2 ≤ c.vertices.length)
    (placed : ∀ s ∈ stretches isCut c.vertices, map.position? (nodeOf order s.start.ref) = some s.start.position ∧
      map.position? (nodeOf order s.finish.ref) = some s.finish.position) :
    map.course (c.block isCut order) = c.vertices.map (some ·.position) := by
  have trail : ∀ s ∈ stretches isCut c.vertices,
      (s.segment order c.road.access).bends.map some ++ [map.position? (s.segment order c.road.access).ends.finish] =
        s.trail.map (some ·.position) := by
    intro s hs
    simp [Stretch.segment, Stretch.trail, placed s hs]
  have line : (stretches isCut c.vertices).flatMap Stretch.trail = c.vertices.tail := flatMap_trail_stretches _
  rw [Course.block]
  cases h : stretches isCut c.vertices with
  | nil => exact absurd h (stretches_ne_nil long)
  | cons s more =>
    obtain ⟨rest, hv⟩ := List.head?_eq_some_iff.1 (start_head?_stretches (by rw [h, List.head?_cons]))
    rw [h] at trail line placed
    calc map.course ((s :: more).map (·.segment order c.road.access))
      _ = map.position? (nodeOf order s.start.ref) :: (s :: more).flatMap fun t =>
            (t.segment order c.road.access).bends.map some ++
              [map.position? (t.segment order c.road.access).ends.finish] := by
          simp only [List.map_cons, RoadMap.course, List.flatMap_cons, List.flatMap_map]
          rfl
      _ = some s.start.position :: ((s :: more).flatMap Stretch.trail).map (some ·.position) := by
          rw [(placed s List.mem_cons_self).1, List.flatMap_congr trail, List.map_flatMap]
      _ = c.vertices.map (some ·.position) := by rw [line, hv, List.tail_cons, List.map_cons]

/-- The block of a kept way draws it, if the ends of its stretches have become nodes in their places. -/
theorem drawsWay_block {elements : List Element} {w : Way × String} (kept : w ∈ keptWays elements)
    (placed : ∀ s ∈ stretches isCut (courseOf elements w).vertices,
      map.position? (nodeOf order s.start.ref) = lastPosition? elements s.start.ref ∧
        map.position? (nodeOf order s.finish.ref) = lastPosition? elements s.finish.ref) :
    DrawsWay elements map w ((courseOf elements w).block isCut order) := by
  have long : 2 ≤ (courseOf elements w).vertices.length := length_vertices kept
  have known : ∀ v ∈ (courseOf elements w).vertices, lastPosition? elements v.ref = some v.position :=
    fun v => lastPosition?_of_mem_locate elements w.1.refs
  constructor
  case drawn => simpa [Course.block] using stretches_ne_nil long
  case joined =>
    refine List.isChain_map_of_isChain _ (fun s t h => ?_) (isChain_stretches _)
    rw [Stretch.segment, Stretch.segment, h]
  case course =>
    rw [course_block long, courseOf, map_position_locate]
    intro s hs
    obtain ⟨start, finish⟩ := ends_mem_of_mem_stretches hs
    rw [(placed s hs).1, (placed s hs).2, known _ start, known _ finish]
    exact ⟨rfl, rfl⟩
  case access =>
    intro s hs
    obtain ⟨t, -, rfl⟩ := List.mem_map.1 hs
    rfl

end Block

/-! ## All blocks -/

theorem lastPosition?_of_mem_orderOf {elements : List Element} {v : Vertex} (h : v ∈ orderOf elements) :
    lastPosition? elements v.ref = some v.position := by
  rcases exists_of_mem_foldl h with h | ⟨s, hs, h⟩
  · simp at h
  · obtain ⟨w, -, hs⟩ := mem_cut_courses.1 hs
    obtain ⟨start, finish⟩ := ends_mem_of_mem_stretches hs
    rcases h with rfl | rfl
    · exact lastPosition?_of_mem_locate elements w.1.refs start
    · exact lastPosition?_of_mem_locate elements w.1.refs finish

/-- Every node of the map lies where the extract has a node. -/
theorem exists_node_of_mem_positions {elements : List Element} {map : RoadMap Float} {notices : List Notice}
    (made : roadMap elements = .ok (map, notices)) {p : Point Float} (hp : p ∈ map.positions) :
    ∃ id, .node id p ∈ elements := by
  obtain ⟨plot, _, made', follows, -⟩ := roadMap_eq elements
  obtain ⟨rfl, -⟩ := Prod.mk.inj (Except.ok.inj (made.symm.trans made'))
  have hp : p ∈ plot.draft.positions.toList := Array.mem_toList_iff.2 hp
  rw [follows.positions] at hp
  obtain ⟨v, hv, rfl⟩ := List.mem_map.1 hp
  obtain ⟨e, he, here⟩ := List.exists_of_findSome?_eq_some (lastPosition?_of_mem_orderOf hv)
  cases e with
  | way | relation => cases here
  | node id q =>
    obtain ⟨rfl, rfl⟩ : id = v.ref ∧ q = v.position := by simpa [Element.positionOf?] using here
    exact ⟨v.ref, List.mem_reverse.1 he⟩

/-- The ends of all stretches have become nodes, each where the last element with its name puts it. -/
theorem Plot.Follows.placed {elements : List Element} {plot : Plot} (follows : plot.Follows (orderOf elements))
    (fits : (orderOf elements).length ≤ UInt32.size) {s : Stretch} (hs : s ∈ (cut (courses elements)).map (·.2)) :
    plot.draft.position? (nodeOf (orderOf elements) s.start.ref) = lastPosition? elements s.start.ref ∧
      plot.draft.position? (nodeOf (orderOf elements) s.finish.ref) = lastPosition? elements s.finish.ref := by
  have lie : ∀ v ∈ orderOf elements, lastPosition? elements v.ref = some v.position :=
    fun _ => lastPosition?_of_mem_orderOf
  obtain ⟨start, finish⟩ := ends_mem_foldl hs
  exact ⟨follows.position?_nodeOf fits lie start, follows.position?_nodeOf fits lie finish⟩

theorem map_segment_cut_courses (elements : List Element) (order : List Vertex) :
    ((cut (courses elements)).map fun (access, s) => s.segment order access) =
      ((keptWays elements).map fun w => (courseOf elements w).block (isCrossing elements) order).flatten := by
  rw [cut_courses, List.map_flatMap, ← List.flatMap_def]
  simp [Course.block, Function.comp_def]

/-- **A map draws the ways**: the edges of an extract's map divide into one block for each kept way, and each block
leads through the known nodes of its way. -/
theorem roadMap_drawsWays (elements : List Element) : ∃ map notices, roadMap elements = .ok (map, notices) ∧
    (map.Fits → ∃ blocks, map.segments = blocks.flatten.map some ∧
      List.Forall₂ (DrawsWay elements map) (keptWays elements) blocks) := by
  obtain ⟨plot, notices, made, follows, segments⟩ := roadMap_eq elements
  refine ⟨_, notices, made, fun fits => ?_⟩
  have slots := fits.slots
  have nodes := fits.nodes
  rw [Draft.edgeCount_build] at slots
  rw [Draft.nodeCount_build, follows.size_positions] at nodes
  refine ⟨(keptWays elements).map fun w => (courseOf elements w).block (isCrossing elements) (orderOf elements), ?_, ?_⟩
  · rw [Draft.segments_build (by omega), segments, map_segment_cut_courses]
  · rw [List.forall₂_map_right_iff, List.forall₂_same]
    intro w hw
    exact drawsWay_block hw fun s hs => follows.placed (Nat.le_of_lt nodes) (mem_cut_courses.2 ⟨w, hw, hs⟩)

/-- A street that a one-way loop leaves in the middle; one end of the street is missing, a corner of the loop is given
twice, and there is a footpath. -/
def loopOffStreet : List Element :=
  [.way ⟨10, [1, 2, 3, 99], [("highway", "residential")]⟩, .node 4 ⟨0, 0⟩, .node 1 ⟨0, 0⟩, .node 2 ⟨0, 10000⟩,
    .node 3 ⟨0, 20000⟩, .node 4 ⟨10000, 10000⟩, .node 5 ⟨10000, 20000⟩, .way ⟨11, [1, 5], [("highway", "path")]⟩,
    .way ⟨12, [2, 4, 5, 2], [("highway", "service"), ("oneway", "yes")]⟩, .relation 7]

theorem roadMap_drawsWays_loopOffStreet : ∃ map notices, roadMap loopOffStreet = .ok (map, notices) ∧ map.Fits ∧
    ∃ blocks, map.segments = blocks.flatten.map some ∧
      List.Forall₂ (DrawsWay loopOffStreet map) (keptWays loopOffStreet) blocks := by
  obtain ⟨map, notices, made, draws⟩ := roadMap_drawsWays loopOffStreet
  have fits : map.Fits := fits_of_roadMap made (by decide +kernel)
  exact ⟨map, notices, made, fits, draws fits⟩

end OpenStreetMap

end Roadside
