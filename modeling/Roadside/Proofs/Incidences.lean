import Roadside.Proofs.Arms

/-!
# The two ends of an edge

What a packed map lists at a node are the segments of its draft that lead away from there (`exists_segment`,
`exists_incidence`). So the lists of different nodes fit together:

* **A node lists the edges that lead away from it**, once for each direction in which they do (`listsEnds_build`).
* **An edge is listed at its other end as well**, and leads back from there (`mirrored_build`).
* **An edge that is listed twice at one node** leads back to that node (`far_eq_of_edge_eq`).
-/

namespace Roadside

variable {K : Type}

@[simp] theorem Ends.source_reverse (e : Ends) (t : Travel) : e.source t.reverse = e.target t := by
  rw [source, Travel.reverse_reverse]

theorem Segment.mem_outwards {s : Segment K} {node : NodeId} {t : Travel} :
    t ∈ s.outwards node ↔ s.ends.source t = node := by
  cases t <;> simp [outwards, Ends.source, Ends.target, Travel.reverse]

theorem Travel.eq_reverse_of_ne {t u : Travel} (h : t ≠ u) : u = t.reverse := by
  cases t <;> cases u <;> simp_all [reverse]

/-- Every edge that is listed at a node is listed at its other end, leading back. -/
def RoadMap.Mirrored (map : RoadMap K) : Prop := ∀ (node : NodeId) (i : Incidence K), i ∈ map.incidences node →
  ∃ j ∈ map.incidences i.far, j.edge = i.edge ∧ j.far = node ∧ j.outward = i.inward

/-- A node lists every direction of an edge that leads away from it, with the node it leads to, and nothing else. -/
def RoadMap.ListsEnds (map : RoadMap K) : Prop := ∀ (node far : NodeId) (edge : EdgeId) (t : Travel),
  (∃ i ∈ map.incidences node, i.edge = edge ∧ i.far = far ∧ i.outward = t) ↔
    ∃ ends, map.ends? edge = some ends ∧ ends.source t = node ∧ ends.target t = far

namespace RoadMap.ListsEnds

variable {map : RoadMap K} (lists : map.ListsEnds) {node : NodeId}
include lists

/-- A listed edge leads from the node to its other end. -/
theorem exists_ends {i : Incidence K} (listed : i ∈ map.incidences node) :
    ∃ ends, map.ends? i.edge = some ends ∧ ends.source i.outward = node ∧ ends.target i.outward = i.far :=
  (lists node i.far i.edge i.outward).1 ⟨i, listed, rfl, rfl, rfl⟩

/-- Looking for a listed edge is looking for a direction of an edge that leads away. -/
theorem exists_iff {p : EdgeId → NodeId → Travel → Prop} : (∃ i ∈ map.incidences node, p i.edge i.far i.outward) ↔
    ∃ edge ends t, map.ends? edge = some ends ∧ ends.source t = node ∧ p edge (ends.target t) t := by
  constructor
  · rintro ⟨i, listed, fit⟩
    obtain ⟨ends, known, source, target⟩ := lists.exists_ends listed
    exact ⟨i.edge, ends, i.outward, known, source, target ▸ fit⟩
  · rintro ⟨edge, ends, t, known, source, fit⟩
    obtain ⟨i, listed, rfl, far, rfl⟩ := (lists node (ends.target t) edge t).2 ⟨ends, known, source, rfl⟩
    exact ⟨i, listed, far ▸ fit⟩

/-- A listed edge leads from its other end back, in the opposite direction. -/
theorem mirrored : map.Mirrored := by
  intro node i listed
  obtain ⟨ends, known, source, target⟩ := lists.exists_ends listed
  have back : ends.source i.inward = i.far := (ends.source_reverse i.outward).trans target
  obtain ⟨j, listed', edge, far, outward⟩ := (lists i.far node i.edge i.inward).2 ⟨ends, known, back, source⟩
  exact ⟨j, listed', edge, far, outward⟩

/-- An edge that is listed twice at a node leads back there both times, so both times it leads to the same node. -/
theorem far_eq_of_edge_eq {i j : Incidence K} (hi : i ∈ map.incidences node) (hj : j ∈ map.incidences node)
    (same : i.edge = j.edge) : i.far = j.far := by
  obtain ⟨ends, known, source, target⟩ := lists.exists_ends hi
  obtain ⟨ends', known', source', target'⟩ := lists.exists_ends hj
  obtain rfl : ends = ends' := Option.some.inj (known.symm.trans (same ▸ known'))
  rw [← target, ← target']
  by_cases turned : i.outward = j.outward
  · rw [turned]
  · -- in opposite directions the edge leads from the node and to it
    have opposite := Travel.eq_reverse_of_ne turned
    rw [opposite, Ends.source_reverse] at source'
    rw [source', opposite]
    exact source.symm

end RoadMap.ListsEnds

/-- A node below the count of nodes has a position. -/
theorem RoadMap.exists_position? {map : RoadMap K} {node : NodeId} (h : node.index < map.nodeCount) :
    ∃ position, map.view.position? node = some position :=
  ⟨_, Array.getElem?_eq_getElem h⟩

namespace Draft

variable {d : Draft K} {k : Nat} {s : Segment K} {node : NodeId}

/-- Every direction of a segment has something to list. -/
theorem exists_incidence? (h : s ∈ d.segments) (t : Travel) :
    ∃ anchor, d.incidence? s k t = some ⟨.ofIndex k, s.ends.target t, t, anchor⟩ := by
  obtain ⟨anchor, ha⟩ := exists_anchor? h t
  exact ⟨anchor, congrArg (Option.map _) ha⟩

theorem incidence?_eq_some {i : Incidence K} {t : Travel} (h : d.incidence? s k t = some i) :
    i.edge = .ofIndex k ∧ i.far = s.ends.target t ∧ i.outward = t := by
  obtain ⟨anchor, -, rfl⟩ := Option.map_eq_some_iff.1 h
  exact ⟨rfl, rfl, rfl⟩

variable (fits : d.segments.size ≤ UInt32.size)
include fits

theorem mem_incidences_build {i : Incidence K} : i ∈ d.build.incidences node ↔
    ∃ k s t, d.segments[k]? = some s ∧ s.ends.source t = node ∧ d.incidence? s k t = some i := by
  simp only [incidences_build fits, List.mem_flatMap, Prod.exists, List.mem_zipIdx_iff_getElem?, Array.getElem?_toList,
    List.mem_filterMap, Segment.mem_outwards]
  constructor
  · rintro ⟨s, k, hs, t, source, h⟩
    exact ⟨k, s, t, hs, source, h⟩
  · rintro ⟨k, s, t, hs, source, h⟩
    exact ⟨s, k, hs, t, source, h⟩

/-- An edge that is listed at a node is a segment that leads away from there. -/
theorem exists_segment {i : Incidence K} (h : i ∈ d.build.incidences node) :
    ∃ k s, d.segments[k]? = some s ∧ i.edge = .ofIndex k ∧ s.ends.source i.outward = node ∧
      i.far = s.ends.target i.outward := by
  obtain ⟨k, s, t, hs, source, h⟩ := (mem_incidences_build fits).1 h
  obtain ⟨edge, far, rfl⟩ := incidence?_eq_some h
  exact ⟨k, s, hs, edge, source, far⟩

/-- A segment is listed wherever it leads away from. -/
theorem exists_incidence (hs : d.segments[k]? = some s) (t : Travel) :
    ∃ i ∈ d.build.incidences (s.ends.source t), i.edge = .ofIndex k ∧ i.far = s.ends.target t ∧ i.outward = t := by
  obtain ⟨anchor, listed⟩ := exists_incidence? (Array.mem_of_getElem? hs) t
  exact ⟨_, (mem_incidences_build fits).2 ⟨k, s, t, hs, rfl, listed⟩, rfl, rfl, rfl⟩

theorem listsEnds_build : d.build.ListsEnds := by
  intro node far edge t
  constructor
  · rintro ⟨i, listed, rfl, rfl, rfl⟩
    obtain ⟨k, s, hs, edge, source, far⟩ := exists_segment fits listed
    exact ⟨s.ends, by rw [ends?_build, edge, index_of_getElem? fits hs, hs, Option.map_some], source, far.symm⟩
  · rintro ⟨ends, known, rfl, rfl⟩
    rw [ends?_build, Option.map_eq_some_iff] at known
    obtain ⟨s, hs, rfl⟩ := known
    obtain ⟨i, listed, edge', far, outward⟩ := exists_incidence fits hs t
    exact ⟨i, listed, by rw [edge', Ident.ofIndex_index], far, outward⟩

theorem mirrored_build : d.build.Mirrored := (listsEnds_build fits).mirrored

theorem far_eq_of_edge_eq {i j : Incidence K} (hi : i ∈ d.build.incidences node) (hj : j ∈ d.build.incidences node)
    (same : i.edge = j.edge) : i.far = j.far :=
  (listsEnds_build fits).far_eq_of_edge_eq hi hj same

end Draft

end Roadside
