import Roadside.Proofs.Incidences
import Roadside.Proofs.OpenStreetMap.Corners
import Roadside.Proofs.OpenStreetMap.Geometry

/-!
# Where ways are joined

A joint is a node at which kept ways start or end, or which they run through more than once. Joints become nodes of the
map, so that ways that share one are joined there.

* **Ways are joined at their joints** (`roadMap_joinsWays`): each joint has one node of the map, and the edges of every
  way end and start at that node wherever the way runs through the joint; different names have different nodes, numbered
  in the order in which the ways first name them, and at every node there is an edge.
-/

namespace Roadside

variable {K : Type}

/-- The nodes on a walk along segments, and nothing in place of each bend. -/
def nodesAlong : List (Segment K) → List (Option NodeId)
  | [] => []
  | s :: more => some s.ends.start :: (s :: more).flatMap fun s => s.bends.map (fun _ => none) ++ [some s.ends.finish]

namespace OpenStreetMap

/-- The kept ways start or end at the node. -/
def IsWayEnd (elements : List Element) (ref : Int) : Prop := ∃ w ∈ keptWays elements,
  (knownRefs elements w.1.refs).head? = some ref ∨ (knownRefs elements w.1.refs).getLast? = some ref

/-- The kept ways start or end at the node, or they name it more than once. -/
def IsJoint (elements : List Element) (ref : Int) : Prop :=
  IsWayEnd elements ref ∨ 2 ≤ (keptRefs elements).count ref

/-- The node of a name, if the names of nodes are these in the order of their numbers. -/
def nodeIn? (numbered : List Int) (ref : Int) : Option NodeId :=
  if ref ∈ numbered then some (.ofIndex (numbered.idxOf ref)) else none

/-- The map joins the kept ways, where `numbered` lists the names of its nodes in the order of their numbers. -/
structure JoinsWays (elements : List Element) (map : RoadMap Float) (numbered : List Int) : Prop where
  nodes : map.nodeCount = numbered.length
  once : numbered.Nodup
  /-- Different names have different nodes. -/
  apart : ∀ ref ref' node, nodeIn? numbered ref = some node → nodeIn? numbered ref' = some node → ref = ref'
  /-- Nodes are numbered in the order in which the kept ways first name them. -/
  order : numbered = ((keptRefs elements).filter (· ∈ numbered)).eraseDups
  joints : ∀ ref, IsJoint elements ref → ∃ node, nodeIn? numbered ref = some node
  /-- Where a name has a node without being a joint, the ways for cars name it more than once. -/
  names : ∀ ref, ref ∈ numbered ↔
    ref ∈ keptRefs elements ∧ (IsWayEnd elements ref ∨ 2 ≤ (drivableRefs elements).count ref)
  /-- The edges divide into one block for each kept way, and walking along the block one comes through the node of each
  name that has one, whenever the way names it, and through no other nodes. -/
  walks : ∃ blocks, map.segments = blocks.flatten.map some ∧ List.Forall₂ (fun w block =>
    block ≠ [] ∧ block.IsChain (fun s t => s.ends.finish = t.ends.start) ∧
      nodesAlong block = (knownRefs elements w.1.refs).map (nodeIn? numbered)) (keptWays elements) blocks
  /-- There is an edge at every node. -/
  met : ∀ node : NodeId, node.index < map.nodeCount → map.incidences node ≠ []

/-! ## Names that have nodes -/

section Numbers

variable {numbered : List Int} {ref ref' : Int} (fits : numbered.length ≤ UInt32.size)
include fits

/-- As long as the numbers fit 32 bits, names in a list are told apart by the numbers of their places. -/
theorem ofIndex_idxOf_inj (mem : ref ∈ numbered) (mem' : ref' ∈ numbered) :
    (Ident.ofIndex (numbered.idxOf ref) : NodeId) = .ofIndex (numbered.idxOf ref') ↔ ref = ref' := by
  have below := List.idxOf_lt_length_of_mem mem
  have below' := List.idxOf_lt_length_of_mem mem'
  rw [Ident.ofIndex_inj (by omega) (by omega), List.idxOf_inj mem]

/-- Different names have different nodes. -/
theorem nodeIn?_inj {node : NodeId} (h : nodeIn? numbered ref = some node) (h' : nodeIn? numbered ref' = some node) :
    ref = ref' := by
  unfold nodeIn? at h h'
  split at h
  case isFalse => cases h
  case isTrue mem =>
    split at h'
    case isFalse => cases h'
    case isTrue mem' => exact (ofIndex_idxOf_inj fits mem mem').1 (Option.some.inj (h.trans h'.symm))

end Numbers

/-- Names in the order are told apart by their nodes. -/
theorem nodeOf_inj {order : List Vertex} (fits : order.length ≤ UInt32.size) {ref ref' : Int}
    (mem : ref ∈ order.map (·.ref)) (mem' : ref' ∈ order.map (·.ref)) :
    nodeOf order ref = nodeOf order ref' ↔ ref = ref' :=
  ofIndex_idxOf_inj (by rwa [List.length_map]) mem mem'

section Names

variable {elements : List Element} {ref : Int}

theorem mem_refs_orderOf : ref ∈ (orderOf elements).map (·.ref) ↔ ref ∈ (cornersOf elements).map (·.ref) := by
  rw [map_ref_orderOf, List.mem_eraseDups]

theorem nodup_orderOf (elements : List Element) : ((orderOf elements).map (·.ref)).Nodup := by
  rw [map_ref_orderOf]
  exact nodup_eraseDups _

/-- The corners of a kept way become nodes. -/
theorem ref_mem_orderOf {w : Way × String} (kept : w ∈ keptWays elements) {v : Vertex}
    (h : v ∈ corners (stretchesOf elements w)) : v.ref ∈ (orderOf elements).map (·.ref) :=
  mem_refs_orderOf.2 (List.mem_map_of_mem (List.mem_flatMap.2 ⟨w, kept, h⟩))

/-- Its bends do not. -/
theorem ref_not_mem_orderOf {w : Way × String} (kept : w ∈ keptWays elements) {v : Vertex}
    (h : v ∈ (stretchesOf elements w).flatMap (·.bends)) : v.ref ∉ (orderOf elements).map (·.ref) :=
  mt mem_refs_orderOf.1 (ref_not_mem_cornersOf (List.mem_flatMap.2 ⟨w, kept, h⟩))

theorem mem_keptRefs : ref ∈ keptRefs elements ↔
    ∃ w ∈ keptWays elements, ∃ v ∈ (courseOf elements w).vertices, v.ref = ref := by
  simp only [keptRefs, List.mem_flatMap, ← map_ref_vertices, List.mem_map]

theorem isWayEnd_iff : IsWayEnd elements ref ↔ ∃ w ∈ keptWays elements, ∃ v,
    ((courseOf elements w).vertices.head? = some v ∨ (courseOf elements w).vertices.getLast? = some v) ∧
      v.ref = ref := by
  simp only [IsWayEnd, ← map_ref_vertices, List.head?_map, List.getLast?_map, Option.map_eq_some_iff, ← exists_or,
    ← or_and_right]

/-- The corners of the kept ways are their ends and the crossings on them. -/
theorem mem_cornersOf_iff : ref ∈ (cornersOf elements).map (·.ref) ↔
    ref ∈ keptRefs elements ∧ (IsWayEnd elements ref ∨ 2 ≤ (drivableRefs elements).count ref) := by
  constructor
  · intro h
    obtain ⟨v, hv, rfl⟩ := List.mem_map.1 h
    obtain ⟨w, hw, hv⟩ := List.mem_flatMap.1 hv
    have on : v ∈ (courseOf elements w).vertices := (mem_line_iff (length_vertices hw)).2 (.inl hv)
    refine ⟨mem_keptRefs.2 ⟨w, hw, v, on, rfl⟩, ?_⟩
    rcases isCut_or_end_of_mem_corners hv with crossing | ends
    · exact .inr (isCrossing_iff.1 crossing)
    · exact .inl (isWayEnd_iff.2 ⟨w, hw, v, ends, rfl⟩)
  · rintro ⟨named, joint⟩
    rcases joint with wayEnd | twice
    · obtain ⟨w, hw, v, ends, rfl⟩ := isWayEnd_iff.1 wayEnd
      exact List.mem_map_of_mem (List.mem_flatMap.2 ⟨w, hw, ends_mem_corners (length_vertices hw) ends⟩)
    · obtain ⟨w, hw, v, hv, rfl⟩ := mem_keptRefs.1 named
      rcases (mem_line_iff (length_vertices hw)).1 hv with corner | bend
      · exact List.mem_map_of_mem (List.mem_flatMap.2 ⟨w, hw, corner⟩)
      · -- a bend is named once only
        have once := count_drivableRefs_of_mem_bendsOf (List.mem_flatMap.2 ⟨w, hw, bend⟩)
        omega

theorem mem_cornersOf_of_isJoint (h : IsJoint elements ref) : ref ∈ (cornersOf elements).map (·.ref) := by
  rw [mem_cornersOf_iff]
  rcases h with wayEnd | twice
  · obtain ⟨w, hw, v, ends, rfl⟩ := isWayEnd_iff.1 wayEnd
    have on : v ∈ (courseOf elements w).vertices := ends.elim List.mem_of_head? List.mem_of_getLast?
    exact ⟨mem_keptRefs.2 ⟨w, hw, v, on, rfl⟩, .inl wayEnd⟩
  · have named : ref ∈ keptRefs elements := List.count_pos_iff.1 (by omega)
    exact ⟨named, .inr (Nat.le_trans twice (keptRefs_sublist.count_le ref))⟩

/-- What the kept ways name, without the bends, is their corners in order. -/
theorem filter_keptRefs (elements : List Element) :
    (keptRefs elements).filter (· ∈ (orderOf elements).map (·.ref)) = (cornersOf elements).map (·.ref) := by
  rw [keptRefs, cornersOf, List.filter_flatMap, List.map_flatMap]
  refine List.flatMap_congr fun w hw => ?_
  rw [← map_ref_vertices, List.filter_map]
  refine congrArg (List.map _) (filter_line (length_vertices hw) (fun v hv => ?_) fun v hv => ?_)
  · exact decide_eq_true (ref_mem_orderOf hw hv)
  · exact decide_eq_false (ref_not_mem_orderOf hw hv)

end Names

/-! ## Walking along the edges of a way -/

/-- A walk along the edges of a kept way comes through the nodes of its corners, and bends elsewhere. -/
theorem nodesAlong_block {elements : List Element} {w : Way × String} (kept : w ∈ keptWays elements) :
    nodesAlong ((courseOf elements w).block (isCrossing elements) (orderOf elements)) =
      (knownRefs elements w.1.refs).map (nodeIn? ((orderOf elements).map (·.ref))) := by
  have corner : ∀ v ∈ corners (stretchesOf elements w),
      nodeIn? ((orderOf elements).map (·.ref)) v.ref = some (nodeOf (orderOf elements) v.ref) := by
    intro v hv
    rw [nodeIn?, if_pos (ref_mem_orderOf kept hv), nodeOf]
  have bend : ∀ v ∈ (stretchesOf elements w).flatMap (·.bends),
      nodeIn? ((orderOf elements).map (·.ref)) v.ref = none :=
    fun v hv => if_neg (ref_not_mem_orderOf kept hv)
  rw [← map_ref_vertices, List.map_map, Course.block]
  change nodesAlong ((stretchesOf elements w).map _) = _
  cases h : stretchesOf elements w with
  | nil => exact absurd h (stretches_ne_nil (length_vertices kept))
  | cons s more =>
    rw [h, corners, List.forall_mem_cons, List.forall_mem_map] at corner
    rw [h] at bend
    have trail : ∀ t ∈ s :: more, t.trail.map (nodeIn? ((orderOf elements).map (·.ref)) ∘ (·.ref)) =
        t.bends.map (fun _ => none) ++ [some (nodeOf (orderOf elements) t.finish.ref)] := by
      intro t ht
      have bends : t.bends.map (nodeIn? ((orderOf elements).map (·.ref)) ∘ (·.ref)) = t.bends.map fun _ => none :=
        List.map_congr_left fun v hv => bend v (List.mem_flatMap.2 ⟨t, ht, hv⟩)
      rw [Stretch.trail, List.map_append, bends, List.map_singleton, Function.comp_apply, corner.2 t ht]
    calc nodesAlong ((s :: more).map (·.segment (orderOf elements) (courseOf elements w).road.access))
      _ = some (nodeOf (orderOf elements) s.start.ref) :: (s :: more).flatMap fun t =>
            t.bends.map (fun _ => none) ++ [some (nodeOf (orderOf elements) t.finish.ref)] := by
          simp only [List.map_cons, nodesAlong, List.flatMap_cons, List.flatMap_map, Stretch.segment, List.map_map]
          rfl
      _ = (courseOf elements w).vertices.map (nodeIn? ((orderOf elements).map (·.ref)) ∘ (·.ref)) := by
          rw [eq_of_stretches_eq_cons h, List.map_cons, Function.comp_apply, corner.1, List.map_flatMap,
            List.flatMap_congr trail]

/-! ## Edges at every node -/

/-- Every name in the order is where some stretch of a kept way starts or ends. -/
theorem exists_stretch_of_mem_orderOf {elements : List Element} {v : Vertex} (h : v ∈ orderOf elements) :
    ∃ entry ∈ cut (courses elements), v = entry.2.start ∨ v = entry.2.finish := by
  rcases exists_of_mem_foldl h with h | ⟨s, hs, ends⟩
  · simp at h
  · obtain ⟨entry, hentry, rfl⟩ := List.mem_map.1 hs
    exact ⟨entry, hentry, ends⟩

theorem nodeOf_getElem {elements : List Element} {i : Nat} (h : i < (orderOf elements).length) :
    nodeOf (orderOf elements) (orderOf elements)[i].ref = .ofIndex i := by
  have := (nodup_orderOf elements).idxOf_getElem i (by simpa using h)
  rw [List.getElem_map] at this
  rw [nodeOf, this]

/-- Some edge starts or ends at every node of the map. -/
theorem Plot.Follows.incidences_ne_nil {elements : List Element} {plot : Plot}
    (follows : plot.Follows (orderOf elements))
    (segments : plot.draft.segments.toList =
      (cut (courses elements)).map fun (access, s) => s.segment (orderOf elements) access)
    (fits : plot.draft.segments.size ≤ UInt32.size) {node : NodeId} (known : node.index < plot.draft.positions.size) :
    plot.draft.build.incidences node ≠ [] := by
  rw [follows.size_positions] at known
  obtain ⟨⟨access, s⟩, hs, ends⟩ := exists_stretch_of_mem_orderOf (List.getElem_mem known)
  have here : nodeOf (orderOf elements) (orderOf elements)[node.index].ref = node := by
    rw [nodeOf_getElem known, Ident.ofIndex_index]
  have drawn : s.segment (orderOf elements) access ∈ plot.draft.segments.toList := by
    rw [segments]
    exact List.mem_map_of_mem hs
  obtain ⟨k, hk⟩ := List.mem_iff_getElem?.1 drawn
  rw [Array.getElem?_toList] at hk
  -- from its start the segment leads away forward, from its finish backward
  obtain ⟨t, source⟩ : ∃ t, (s.segment (orderOf elements) access).ends.source t = node := by
    rcases ends with start | finish
    · exact ⟨.forward, by rw [← here, start]; rfl⟩
    · exact ⟨.backward, by rw [← here, finish]; rfl⟩
  obtain ⟨i, hi, -⟩ := Draft.exists_incidence fits hk t
  rw [source] at hi
  exact List.ne_nil_of_mem hi

/-! ## The map of an extract -/

/-- The map of a finished plot joins the kept ways. -/
theorem Plot.Follows.joinsWays {elements : List Element} {plot : Plot} (follows : plot.Follows (orderOf elements))
    (segments : plot.draft.segments.toList =
      (cut (courses elements)).map fun (access, s) => s.segment (orderOf elements) access)
    (fits : plot.draft.build.Fits) : JoinsWays elements plot.draft.build ((orderOf elements).map (·.ref)) := by
  have numbered := Draft.size_segments_le fits
  have nodes := fits.nodes
  rw [Draft.nodeCount_build, follows.size_positions] at nodes
  constructor
  case nodes => rw [Draft.nodeCount_build, follows.size_positions, List.length_map]
  case once => exact nodup_orderOf elements
  case apart =>
    intro ref ref' node
    exact nodeIn?_inj (by rw [List.length_map]; omega)
  case order => rw [filter_keptRefs, map_ref_orderOf]
  case joints =>
    intro ref joint
    exact ⟨_, if_pos (mem_refs_orderOf.2 (mem_cornersOf_of_isJoint joint))⟩
  case names => exact fun ref => mem_refs_orderOf.trans mem_cornersOf_iff
  case walks =>
    let block (w : Way × String) := (courseOf elements w).block (isCrossing elements) (orderOf elements)
    refine ⟨(keptWays elements).map block, ?_, ?_⟩
    · rw [Draft.segments_build numbered, segments, map_segment_cut_courses]
    · rw [List.forall₂_map_right_iff, List.forall₂_same]
      intro w hw
      have draws : DrawsWay elements plot.draft.build w (block w) :=
        drawsWay_block hw fun s hs => follows.placed (Nat.le_of_lt nodes) (mem_cut_courses.2 ⟨w, hw, hs⟩)
      exact ⟨draws.drawn, draws.joined, nodesAlong_block hw⟩
  case met =>
    intro node known
    exact follows.incidences_ne_nil segments numbered known

/-- **Ways are joined at their joints**: every extract has a map, and the map joins the kept ways. -/
theorem roadMap_joinsWays (elements : List Element) : ∃ map notices, roadMap elements = .ok (map, notices) ∧
    (map.Fits → ∃ numbered, JoinsWays elements map numbered) := by
  obtain ⟨plot, notices, made, follows, segments⟩ := roadMap_eq elements
  exact ⟨_, notices, made, fun fits => ⟨_, follows.joinsWays segments fits⟩⟩

/-- Two streets that cross, and a bridge over their crossing: where the streets have one node in common, the bridge has
a node of its own in the same place. -/
def crossingUnderBridge : List Element :=
  [.node 1 ⟨0, 0⟩, .node 2 ⟨0, 10000⟩, .node 3 ⟨0, 20000⟩, .node 4 ⟨-10000, 10000⟩, .node 5 ⟨10000, 10000⟩,
    .node 6 ⟨0, 10000⟩, .node 7 ⟨-10000, 0⟩, .node 8 ⟨10000, 20000⟩,
    .way ⟨20, [1, 2, 3], [("highway", "residential")]⟩, .way ⟨21, [4, 2, 5], [("highway", "service")]⟩,
    .way ⟨22, [7, 6, 8], [("highway", "primary")]⟩]

theorem roadMap_joinsWays_crossingUnderBridge : ∃ map notices,
    roadMap crossingUnderBridge = .ok (map, notices) ∧ map.Fits ∧
      ∃ numbered, JoinsWays crossingUnderBridge map numbered := by
  obtain ⟨map, notices, made, joins⟩ := roadMap_joinsWays crossingUnderBridge
  have fits : map.Fits := fits_of_roadMap made (by decide +kernel)
  exact ⟨map, notices, made, fits, joins fits⟩

end OpenStreetMap

end Roadside
