import Mathlib.Data.List.Basic
import Roadside.OpenStreetMap.Extract

/-!
# The ways that are kept

Which ways of an extract become roads of the map, and where they run, said on the elements alone: a way is kept if it is
for cars and the extract holds two of its nodes, and it runs through the nodes that the extract holds, each where its
last element puts it.

* **A position is that of the last element** with the name (`getElem?_positions`).
* **A course runs through the known nodes** of its way (`map_ref_locate`, `map_position_locate`).
* **The courses that have stretches** are those of the kept ways (`filter_isLine_courses`).
-/

namespace Roadside.OpenStreetMap

/-! ## Known nodes -/

/-- The position that an element gives to a name. -/
def Element.positionOf? (ref : Int) : Element → Option (Point Float)
  | .node id position => if id = ref then some position else none
  | .way _ | .relation _ => none

/-- The position of the last node element with a name. -/
def lastPosition? (elements : List Element) (ref : Int) : Option (Point Float) :=
  elements.reverse.findSome? (Element.positionOf? ref)

/-- The names among these that have a node element anywhere, in order. -/
def knownRefs (elements : List Element) (refs : List Int) : List Int :=
  refs.filter fun ref => (lastPosition? elements ref).isSome

theorem lastPosition?_append (elements elements' : List Element) (ref : Int) :
    lastPosition? (elements ++ elements') ref = (lastPosition? elements' ref).or (lastPosition? elements ref) := by
  rw [lastPosition?, List.reverse_append, List.findSome?_append, lastPosition?, lastPosition?]

/-- An element counts for the names that no later element speaks of. -/
theorem lastPosition?_cons (e : Element) (elements : List Element) (ref : Int) :
    lastPosition? (e :: elements) ref = (lastPosition? elements ref).or (e.positionOf? ref) := by
  rw [← List.singleton_append, lastPosition?_append]
  cases h : e.positionOf? ref <;> simp [lastPosition?, h]

theorem getElem?_enter (known : Positions) (e : Element) (ref : Int) :
    (e.enter known)[ref]? = (e.positionOf? ref).or known[ref]? := by
  cases e with
  | node id position =>
    rw [Element.enter, Std.HashMap.getElem?_insert, Element.positionOf?]
    by_cases h : id = ref <;> simp [h]
  | way | relation => rfl

theorem getElem?_foldl_enter (elements : List Element) (known : Positions) (ref : Int) :
    (elements.foldl Element.enter known)[ref]? = (lastPosition? elements ref).or known[ref]? := by
  induction elements generalizing known with
  | nil => simp [lastPosition?]
  | cons e elements ih =>
    rw [List.foldl_cons, ih, getElem?_enter, ← Option.or_assoc, lastPosition?_cons]

/-- Where an extract holds a node more than once, the last position counts. -/
theorem getElem?_positions (elements : List Element) (ref : Int) :
    (positions elements)[ref]? = lastPosition? elements ref := by
  rw [positions, getElem?_foldl_enter]
  simp

section Locate

variable (elements : List Element) (refs : List Int)

theorem locate_positions : locate (positions elements) refs =
    refs.filterMap fun ref => (lastPosition? elements ref).map fun position => ⟨ref, position⟩ := by
  simp only [locate, getElem?_positions]

/-- The course of a way runs through its known nodes. -/
theorem map_ref_locate : (locate (positions elements) refs).map (·.ref) = knownRefs elements refs := by
  rw [locate_positions, List.map_filterMap, knownRefs, ← List.filterMap_eq_filter]
  refine List.filterMap_congr fun ref _ => ?_
  cases h : lastPosition? elements ref <;> simp [Option.guard, h]

theorem length_locate : (locate (positions elements) refs).length = (knownRefs elements refs).length := by
  rw [← map_ref_locate, List.length_map]

/-- A vertex lies where the last element with its name puts it. -/
theorem lastPosition?_of_mem_locate {v : Vertex} (h : v ∈ locate (positions elements) refs) :
    lastPosition? elements v.ref = some v.position := by
  rw [locate_positions, List.mem_filterMap] at h
  obtain ⟨ref, -, h⟩ := h
  obtain ⟨position, hp, rfl⟩ := Option.map_eq_some_iff.1 h
  exact hp

theorem map_position_locate : (locate (positions elements) refs).map (some ·.position) =
    (knownRefs elements refs).map (lastPosition? elements) := by
  rw [← map_ref_locate, List.map_map]
  exact List.map_congr_left fun v h => (lastPosition?_of_mem_locate elements refs h).symm

end Locate

/-! ## Kept ways -/

/-- A way for cars, with the class of road that it is. -/
def Element.drivable? : Element → Option (Way × String)
  | .way w => (Tags.highway? w.tags).map fun highway => (w, highway)
  | .node .. | .relation _ => none

/-- The ways for cars of which the extract holds two nodes, in order, each with its class. -/
def keptWays (elements : List Element) : List (Way × String) :=
  (elements.filterMap Element.drivable?).filter fun (w, _) => 2 ≤ (knownRefs elements w.refs).length

/-- The course of a way of some class. -/
def courseOf (elements : List Element) : Way × String → Course
  | (w, highway) => ⟨⟨w.id, w.refs, Tags.access w.tags highway⟩, locate (positions elements) w.refs⟩

/-- The course of a kept way has a start and a finish. -/
theorem length_vertices {elements : List Element} {w : Way × String} (kept : w ∈ keptWays elements) :
    2 ≤ (courseOf elements w).vertices.length := by
  rw [courseOf, length_locate]
  simpa using (List.mem_filter.1 kept).2

theorem map_ref_vertices {elements : List Element} (w : Way × String) :
    (courseOf elements w).vertices.map (·.ref) = knownRefs elements w.1.refs := map_ref_locate elements w.1.refs

theorem courses_eq (elements : List Element) :
    courses elements = (elements.filterMap Element.drivable?).map (courseOf elements) := by
  rw [courses, List.map_filterMap, List.map_filterMap]
  refine List.filterMap_congr fun e _ => ?_
  cases e with
  | way w => simp [Element.road?, Element.drivable?, courseOf, Function.comp_def]
  | node | relation => rfl

/-- The courses that have stretches are those of the kept ways. -/
theorem filter_isLine_courses (elements : List Element) :
    (courses elements).filter Course.isLine = (keptWays elements).map (courseOf elements) := by
  rw [courses_eq, List.filter_map, keptWays]
  congr 2
  funext ⟨w, highway⟩
  simp [Course.isLine, courseOf, length_locate]

/-! ## Stretches -/

/-- The roads of the extract run through the vertex more than once. -/
def isCrossing (elements : List Element) (v : Vertex) : Bool := 1 < (crossings (courses elements)).getD v.ref 0

/-- The stretches of the kept ways, way by way, each with the access of its way. -/
theorem cut_courses (elements : List Element) : cut (courses elements) = (keptWays elements).flatMap fun w =>
    (stretches (isCrossing elements) (courseOf elements w).vertices).map fun s =>
      ((courseOf elements w).road.access, s) := by
  rw [cut, filter_isLine_courses, List.flatMap_map]
  rfl

theorem mem_cut_courses {elements : List Element} {s : Stretch} : s ∈ (cut (courses elements)).map (·.2) ↔
    ∃ w ∈ keptWays elements, s ∈ stretches (isCrossing elements) (courseOf elements w).vertices := by
  simp [cut_courses]

end Roadside.OpenStreetMap
