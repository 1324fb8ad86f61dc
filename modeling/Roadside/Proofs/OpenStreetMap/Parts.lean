import Roadside.Proofs.OpenStreetMap.Corners
import Roadside.Proofs.OpenStreetMap.Geometry

/-!
# Extracts in parts

What a part of an extract contributes to the map: the nodes that its ways name (`refsIn`), the ways in it that are kept
(`keptIn`) and the edges that these become (`blocksIn`). The edges of the map are those of the parts, one part after the
other (`segments_eq`, `blocksIn_append`).

Ways say nothing about where nodes lie (`positions_way`), so extracts that differ in their ways agree on which nodes are
known and on how the ways run that they have in common.
-/

namespace Roadside.OpenStreetMap

/-! ## The kept ways of a part of an extract -/

/-- The ways among some elements that are kept. -/
def keptIn (elements part : List Element) : List (Way × String) :=
  (part.filterMap Element.drivable?).filter fun (w, _) => 2 ≤ (knownRefs elements w.refs).length

theorem keptIn_append (elements part part' : List Element) :
    keptIn elements (part ++ part') = keptIn elements part ++ keptIn elements part' := by
  rw [keptIn, List.filterMap_append, List.filter_append, keptIn, keptIn]

theorem keptIn_subset {elements part : List Element} (sub : part ⊆ elements) :
    keptIn elements part ⊆ keptWays elements := by
  intro v mem
  obtain ⟨mem, long⟩ := List.mem_filter.1 mem
  obtain ⟨e, he, drivable⟩ := List.mem_filterMap.1 mem
  exact List.mem_filter.2 ⟨List.mem_filterMap.2 ⟨e, sub he, drivable⟩, long⟩

/-! ## The names in a part -/

/-- The known nodes that the ways for cars among some elements name, way by way. -/
def refsIn (elements part : List Element) : List Int :=
  (part.filterMap Element.drivable?).flatMap fun w => knownRefs elements w.1.refs

theorem drivableRefs_eq (elements : List Element) : drivableRefs elements = refsIn elements elements := rfl

theorem refsIn_append (elements part part' : List Element) :
    refsIn elements (part ++ part') = refsIn elements part ++ refsIn elements part' := by
  rw [refsIn, List.filterMap_append, List.flatMap_append, refsIn, refsIn]

theorem refsIn_way {w : Way} {highway : String} (elements : List Element)
    (drivable : Element.drivable? (.way w) = some (w, highway)) :
    refsIn elements [.way w] = knownRefs elements w.refs := by
  rw [refsIn, List.filterMap_cons_some drivable, List.filterMap_nil, List.flatMap_singleton]

/-! ## The edges of a part -/

/-- The edges that a kept way becomes. -/
def blockOf (elements : List Element) (v : Way × String) : List (Segment Float) :=
  (courseOf elements v).block (isCrossing elements) (orderOf elements)

theorem blockOf_eq (elements : List Element) (v : Way × String) : blockOf elements v =
    (stretchesOf elements v).map (·.segment (orderOf elements) (courseOf elements v).road.access) := rfl

/-- The edges of the kept ways of a part of an extract, in one block for each way. -/
def blocksIn (elements part : List Element) : List (List (Segment Float)) :=
  (keptIn elements part).map (blockOf elements)

theorem flatten_blocksIn (elements part : List Element) :
    (blocksIn elements part).flatten = (keptIn elements part).flatMap (blockOf elements) := List.flatMap_def.symm

/-- The edges of all kept ways. -/
theorem segments_eq {elements : List Element} {plot : Plot} (segments : plot.draft.segments.toList =
    (cut (courses elements)).map fun (access, s) => s.segment (orderOf elements) access) :
    plot.draft.segments.toList = (blocksIn elements elements).flatten := segments.trans (map_segment_cut_courses _ _)

theorem blocksIn_append (elements part part' : List Element) :
    blocksIn elements (part ++ part') = blocksIn elements part ++ blocksIn elements part' := by
  rw [blocksIn, keptIn_append, List.map_append, blocksIn, blocksIn]

/-- Blocks draw the ways that they are for. -/
theorem Plot.Follows.drawsWays {elements part : List Element} {plot : Plot} (follows : plot.Follows (orderOf elements))
    (fits : (orderOf elements).length ≤ UInt32.size) (sub : part ⊆ elements) :
    List.Forall₂ (DrawsWay elements plot.draft.build) (keptIn elements part) (blocksIn elements part) := by
  rw [blocksIn, List.forall₂_map_right_iff, List.forall₂_same]
  exact fun v mem => drawsWay_block (keptIn_subset sub mem) fun s hs =>
    follows.placed fits (mem_cut_courses.2 ⟨v, keptIn_subset sub mem, hs⟩)

/-! ## Where nodes are -/

/-- The stretches of a kept way start and end where there are nodes. -/
theorem ends_mem_orderOf {elements : List Element} {v : Way × String} (kept : v ∈ keptWays elements) {s : Stretch}
    (h : s ∈ stretchesOf elements v) :
    s.start.ref ∈ (orderOf elements).map (·.ref) ∧ s.finish.ref ∈ (orderOf elements).map (·.ref) :=
  ends_mem_foldl (mem_cut_courses.2 ⟨v, kept, h⟩)

/-- A name gets a node where a stretch of a kept way starts or ends. -/
theorem mem_refs_orderOf_iff_exists_stretch {elements : List Element} {ref : Int} :
    ref ∈ (orderOf elements).map (·.ref) ↔
      ∃ w ∈ keptWays elements, ∃ s ∈ stretchesOf elements w, s.start.ref = ref ∨ s.finish.ref = ref := by
  constructor
  · intro h
    obtain ⟨v, hv, rfl⟩ := List.mem_map.1 h
    rcases exists_of_mem_foldl hv with hv | ⟨s, hs, ends⟩
    · cases hv
    · obtain ⟨w, hw, hs⟩ := mem_cut_courses.1 hs
      exact ⟨w, hw, s, hs, ends.imp (congrArg (·.ref) ·.symm) (congrArg (·.ref) ·.symm)⟩
  · rintro ⟨w, hw, s, hs, ends⟩
    obtain ⟨start, finish⟩ := ends_mem_orderOf hw hs
    rcases ends with rfl | rfl
    · exact start
    · exact finish

/-! ## Extracts with the same nodes -/

theorem positions_way (before : List Element) (w : Way) (after : List Element) :
    positions (before ++ ([.way w] ++ after)) = positions (before ++ after) := by
  simp [positions, Element.enter]

section SamePositions

variable {elements elements' : List Element} (same : positions elements' = positions elements)
include same

theorem lastPosition?_congr : lastPosition? elements' = lastPosition? elements := by
  funext ref
  rw [← getElem?_positions, same, getElem?_positions]

theorem knownRefs_congr : knownRefs elements' = knownRefs elements := by
  funext refs
  rw [knownRefs, lastPosition?_congr same, knownRefs]

theorem courseOf_congr : courseOf elements' = courseOf elements := by
  funext ⟨w, highway⟩
  rw [courseOf, same, courseOf]

theorem keptIn_congr : keptIn elements' = keptIn elements := by
  funext part
  rw [keptIn, knownRefs_congr same, keptIn]

theorem refsIn_congr : refsIn elements' = refsIn elements := by
  funext part
  rw [refsIn, knownRefs_congr same, refsIn]

end SamePositions

end Roadside.OpenStreetMap
