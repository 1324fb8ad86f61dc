import Mathlib.Algebra.Order.BigOperators.Group.List
import Mathlib.Algebra.Order.Group.Nat
import Roadside.Proofs.OpenStreetMap.KeptWays
import Roadside.Proofs.OpenStreetMap.Numbering

/-!
# How large a map gets

A map has no more edges, and no more bends, than its ways name nodes, and at most twice as many nodes. So it is enough
to look at the ways of an extract to know that its map fits (`fits_of_roadMap`).
-/

namespace Roadside.OpenStreetMap

/-- Every vertex of a trail is a bend or the end of its stretch. -/
theorem length_flatMap_trail (l : List Stretch) :
    (l.flatMap Stretch.trail).length = (l.flatMap (·.bends)).length + l.length := by
  induction l with
  | nil => rfl
  | cons s l ih =>
    simp only [List.flatMap_cons, List.length_append, ih, Stretch.trail, List.length_cons, List.length_nil]
    omega

theorem length_enroll_le (order : List Vertex) (v : Vertex) : (enroll order v).length ≤ order.length + 1 := by
  unfold enroll
  split <;> simp

/-- A stretch adds its two ends at most. -/
theorem length_foldl_enrollEnds_le (l : List Stretch) (order : List Vertex) :
    (l.foldl enrollEnds order).length ≤ order.length + 2 * l.length := by
  induction l generalizing order with
  | nil => exact Nat.le_refl _
  | cons s l ih =>
    have rest : (l.foldl enrollEnds (enrollEnds order s)).length ≤ (enrollEnds order s).length + 2 * l.length := ih _
    have start := length_enroll_le order s.start
    have finish : (enrollEnds order s).length ≤ (enroll order s.start).length + 1 := length_enroll_le _ s.finish
    rw [List.foldl_cons, List.length_cons]
    omega

/-- The trails of all stretches are no longer than their ways. -/
theorem length_trails_le (elements : List Element) :
    (((cut (courses elements)).map (·.2)).flatMap Stretch.trail).length ≤
      ((keptWays elements).flatMap (·.1.refs)).length := by
  have trails : ((cut (courses elements)).map (·.2)).flatMap Stretch.trail =
      (keptWays elements).flatMap fun w => (courseOf elements w).vertices.tail := by
    rw [cut_courses, List.map_flatMap, List.flatMap_assoc]
    simp [Function.comp_def, flatMap_trail_stretches]
  rw [trails, List.length_flatMap, List.length_flatMap]
  refine List.sum_le_sum fun w _ => ?_
  have : (courseOf elements w).vertices.length ≤ w.1.refs.length := List.length_filterMap_le ..
  rw [List.length_tail]
  omega

/-- If the kept ways name few nodes, the map of the extract fits. -/
theorem fits_of_roadMap {elements : List Element} {map : RoadMap Float} {notices : List Notice}
    (made : roadMap elements = .ok (map, notices))
    (few : 2 * ((keptWays elements).flatMap (·.1.refs)).length < UInt32.size) : map.Fits := by
  obtain ⟨plot, _, made', follows, segments⟩ := roadMap_eq elements
  obtain ⟨rfl, -⟩ : plot.draft.build = map ∧ _ := by simpa using made'.symm.trans made
  have trails := length_trails_le elements
  rw [length_flatMap_trail] at trails
  have nodes : (orderOf elements).length ≤ 0 + 2 * ((cut (courses elements)).map (·.2)).length :=
    length_foldl_enrollEnds_le _ []
  have edges : plot.draft.segments.size = ((cut (courses elements)).map (·.2)).length := by
    simpa using congrArg List.length segments
  have bends : plot.draft.build.bends.items.size =
      (((cut (courses elements)).map (·.2)).flatMap (·.bends)).length := by
    have rows : plot.draft.segments.toList.map (·.bends) =
        ((cut (courses elements)).map (·.2)).map fun s => s.bends.map (·.position) := by
      rw [segments, List.map_map, List.map_map]
      rfl
    have items : plot.draft.build.bends.items = (plot.draft.segments.toList.map (·.bends)).flatten.toArray := rfl
    rw [items, rows, List.size_toArray, ← List.flatMap_def, List.length_flatMap, List.length_flatMap]
    simp
  refine ⟨?_, ?_, ?_⟩
  · rw [Draft.nodeCount_build, follows.size_positions]
    omega
  · rw [Draft.edgeCount_build]
    omega
  · omega

end Roadside.OpenStreetMap
