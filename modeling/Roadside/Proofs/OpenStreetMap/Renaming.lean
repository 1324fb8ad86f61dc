import Mathlib.Data.List.Count
import Roadside.Proofs.OpenStreetMap.Corners

/-!
# Other names for the same nodes

The names of nodes say which vertices are the same and nothing else: under other names an extract is cut at the same
places, its vertices become nodes in the same order, and the map is the same.

* **The lines of the roads** are all that is drawn (`map_fst_roadMap_eq`): where the roads run and in which directions
  they are open.
* **One law for each step**, for names that are not mixed up: cutting (`cutLines_rename`), numbering (`enroll_rename`,
  `nodeOf_rename`) and drawing (`drawAll_rename`).
* **The map of an extract with other names** is that of the extract (`map_fst_roadMap_rename`).
-/

namespace Roadside.OpenStreetMap

/-! ## Lines -/

/-- What is drawn of a road: the directions in which it is open, and its vertices. -/
structure Line where
  access : Access
  vertices : List Vertex

def Course.line (c : Course) : Line := ⟨c.road.access, c.vertices⟩

/-- The lines of the roads of an extract. -/
def lines (elements : List Element) : List Line := (courses elements).map Course.line

/-- The names of the vertices, line by line. -/
def lineRefs (lines : List Line) : List Int := lines.flatMap fun line => line.vertices.map (·.ref)

/-- The stretches of lines, each with the access of its line. -/
def cutLines (lines : List Line) : List (Access × Stretch) :=
  (lines.filter fun line => 2 ≤ line.vertices.length).flatMap fun line =>
    (stretches (fun v => 1 < (lineRefs lines).count v.ref) line.vertices).map fun s => (line.access, s)

theorem cut_eq_cutLines (courses : List Course) : cut courses = cutLines (courses.map Course.line) := by
  have refs : courses.flatMap (fun c => c.vertices.map (·.ref)) = lineRefs (courses.map Course.line) := by
    rw [lineRefs, List.flatMap_map]
    rfl
  rw [cut, cutLines, List.filter_map, List.flatMap_map]
  simp only [crossings, refs, getD_tally]
  rfl

/-- The map depends on the lines alone. -/
theorem map_fst_roadMap_eq (elements : List Element) :
    (roadMap elements).map (·.1) =
      ((Plot.empty.drawAll (cutLines (lines elements))).map (·.draft)).map Draft.build := by
  rw [map_fst_roadMap, cut_eq_cutLines, lines]
  cases Plot.empty.drawAll (cutLines ((courses elements).map Course.line)) <;> rfl

/-! ## Renaming -/

section Rename

variable (f : Int → Int)

def Vertex.rename (v : Vertex) : Vertex := { v with ref := f v.ref }

def Stretch.rename (s : Stretch) : Stretch := ⟨s.start.rename f, s.bends.map (Vertex.rename f), s.finish.rename f⟩

def Line.rename (line : Line) : Line := { line with vertices := line.vertices.map (Vertex.rename f) }

def Way.rename (w : Way) : Way := { w with refs := w.refs.map f }

/-- The element with other names for nodes; relations and ways keep theirs. -/
def Element.rename : Element → Element
  | .node id position => .node (f id) position
  | .way w => .way (w.rename f)
  | .relation id => .relation id

theorem map_ref_rename (line : List Vertex) :
    (line.map (Vertex.rename f)).map (·.ref) = (line.map (·.ref)).map f := by
  rw [List.map_map, List.map_map]
  rfl

/-! ### Cutting -/

theorem modifyHead_rename (v : Vertex) (l : List Stretch) :
    (l.map (Stretch.rename f)).modifyHead (.bendFirst (v.rename f)) =
      (l.modifyHead (.bendFirst v)).map (Stretch.rename f) := by
  cases l with
  | nil => rfl
  | cons s l => rfl

section Stretches

variable {f} {isCut isCut' : Vertex → Bool} (same : ∀ v, isCut' (v.rename f) = isCut v)
include same

theorem stretchesFrom_rename (start : Vertex) (rest : List Vertex) :
    stretchesFrom isCut' (start.rename f) (rest.map (Vertex.rename f)) =
      (stretchesFrom isCut start rest).map (Stretch.rename f) := by
  induction rest generalizing start with
  | nil => rfl
  | cons v rest ih =>
    rw [List.map_cons, stretchesFrom, stretchesFrom, List.isEmpty_map, same]
    split
    case isTrue =>
      rw [ih, List.map_cons]
      rfl
    case isFalse => rw [ih, modifyHead_rename]

theorem stretches_rename (line : List Vertex) :
    stretches isCut' (line.map (Vertex.rename f)) = (stretches isCut line).map (Stretch.rename f) := by
  cases line with
  | nil => rfl
  | cons start rest => exact stretchesFrom_rename same start rest

end Stretches

theorem lineRefs_rename (lines : List Line) : lineRefs (lines.map (Line.rename f)) = (lineRefs lines).map f := by
  rw [lineRefs, List.flatMap_map, lineRefs, List.map_flatMap]
  apply List.flatMap_congr
  intro line _
  exact map_ref_rename f line.vertices

end Rename

section Injective

variable {f : Int → Int} (inj : Function.Injective f)
include inj

theorem cutLines_rename (lines : List Line) :
    cutLines (lines.map (Line.rename f)) = (cutLines lines).map fun (access, s) => (access, s.rename f) := by
  have same (v : Vertex) : decide (1 < (lineRefs (lines.map (Line.rename f))).count (v.rename f).ref) =
      decide (1 < (lineRefs lines).count v.ref) := by
    rw [lineRefs_rename]
    exact congrArg (fun n => decide (1 < n)) (List.count_map_of_injective _ f inj v.ref)
  have long : (fun line : Line => decide (2 ≤ line.vertices.length)) ∘ Line.rename f =
      fun line => decide (2 ≤ line.vertices.length) := by
    funext line
    simp [Line.rename]
  rw [cutLines, cutLines, List.filter_map, long, List.flatMap_map, List.map_flatMap]
  apply List.flatMap_congr
  intro line _
  rw [Line.rename, stretches_rename same, List.map_map, List.map_map]
  rfl

/-! ### Numbering -/

theorem idxOf_map (refs : List Int) (ref : Int) : (refs.map f).idxOf (f ref) = refs.idxOf ref := by
  induction refs with
  | nil => rfl
  | cons r refs ih => rw [List.map_cons, List.idxOf_cons, List.idxOf_cons, ih, inj.beq_eq]

theorem nodeOf_rename (order : List Vertex) (ref : Int) :
    nodeOf (order.map (Vertex.rename f)) (f ref) = nodeOf order ref := by
  rw [nodeOf, map_ref_rename, idxOf_map inj, nodeOf]

theorem segment_rename (s : Stretch) (order : List Vertex) (access : Access) :
    (s.rename f).segment (order.map (Vertex.rename f)) access = s.segment order access := by
  have start : nodeOf (order.map (Vertex.rename f)) (s.rename f).start.ref = nodeOf order s.start.ref :=
    nodeOf_rename inj order s.start.ref
  have finish : nodeOf (order.map (Vertex.rename f)) (s.rename f).finish.ref = nodeOf order s.finish.ref :=
    nodeOf_rename inj order s.finish.ref
  have bends : (s.rename f).bends.map (·.position) = s.bends.map (·.position) := by
    rw [Stretch.rename, List.map_map]
    rfl
  rw [Stretch.segment, start, finish, bends, Stretch.segment]

theorem enroll_rename (order : List Vertex) (v : Vertex) :
    enroll (order.map (Vertex.rename f)) (v.rename f) = (enroll order v).map (Vertex.rename f) := by
  have known : (v.rename f).ref ∈ (order.map (Vertex.rename f)).map (·.ref) ↔ v.ref ∈ order.map (·.ref) := by
    rw [map_ref_rename]
    exact List.mem_map_of_injective inj
  unfold enroll
  by_cases mem : v.ref ∈ order.map (·.ref)
  · rw [if_pos mem, if_pos (known.2 mem)]
  · rw [if_neg mem, if_neg (mt known.1 mem), List.map_append, List.map_singleton]

theorem enrollEnds_rename (order : List Vertex) (s : Stretch) :
    enrollEnds (order.map (Vertex.rename f)) (s.rename f) = (enrollEnds order s).map (Vertex.rename f) := by
  rw [enrollEnds, Stretch.rename, enroll_rename inj, enroll_rename inj, enrollEnds]

theorem foldl_enrollEnds_rename (stretches : List Stretch) (order : List Vertex) :
    (stretches.map (Stretch.rename f)).foldl enrollEnds (order.map (Vertex.rename f)) =
      (stretches.foldl enrollEnds order).map (Vertex.rename f) := by
  induction stretches generalizing order with
  | nil => rfl
  | cons s stretches ih => rw [List.map_cons, List.foldl_cons, enrollEnds_rename inj, ih, List.foldl_cons]

/-! ### Drawing -/

/-- Under other names the same is drawn, node by node and edge by edge. -/
theorem drawAll_rename (l : List (Access × Stretch)) :
    (Plot.empty.drawAll (l.map fun (access, s) => (access, s.rename f))).map (·.draft) =
      (Plot.empty.drawAll l).map (·.draft) := by
  obtain ⟨plot, drawn, follows, segments⟩ := Plot.Follows.empty.drawAll l
  obtain ⟨plot', drawn', follows', segments'⟩ :=
    Plot.Follows.empty.drawAll (l.map fun (access, s) => (access, s.rename f))
  have order : ((l.map fun (access, s) => (access, s.rename f)).map (·.2)).foldl enrollEnds [] =
      ((l.map (·.2)).foldl enrollEnds []).map (Vertex.rename f) := by
    rw [← foldl_enrollEnds_rename inj, List.map_map, List.map_map]
    rfl
  rw [order] at follows' segments'
  have sameNodes : plot'.draft.positions.toList = plot.draft.positions.toList := by
    rw [follows'.positions, follows.positions, List.map_map]
    rfl
  have sameEdges : plot'.draft.segments.toList = plot.draft.segments.toList := by
    rw [segments', segments, List.map_map]
    exact congrArg _ (List.map_congr_left fun (access, s) _ => segment_rename inj s _ access)
  rw [drawn, drawn', Except.map, Except.map, Draft.ext_toList sameNodes sameEdges]

/-! ### Extracts -/

theorem positionOf?_rename (e : Element) (ref : Int) : (e.rename f).positionOf? (f ref) = e.positionOf? ref := by
  cases e with
  | node id position => simp only [Element.rename, Element.positionOf?, inj.eq_iff]
  | way | relation => rfl

theorem lastPosition?_rename (elements : List Element) (ref : Int) :
    lastPosition? (elements.map (Element.rename f)) (f ref) = lastPosition? elements ref := by
  rw [lastPosition?, ← List.map_reverse, List.findSome?_map, lastPosition?]
  congr 1
  funext e
  exact positionOf?_rename inj e ref

theorem locate_rename (elements : List Element) (refs : List Int) :
    locate (positions (elements.map (Element.rename f))) (refs.map f) =
      (locate (positions elements) refs).map (Vertex.rename f) := by
  rw [locate_positions, locate_positions, List.filterMap_map, List.map_filterMap]
  apply List.filterMap_congr
  intro ref _
  rw [Function.comp_apply, lastPosition?_rename inj, Option.map_map]
  rfl

theorem lines_rename (elements : List Element) :
    lines (elements.map (Element.rename f)) = (lines elements).map (Line.rename f) := by
  have drivable : (elements.map (Element.rename f)).filterMap Element.drivable? =
      (elements.filterMap Element.drivable?).map fun v => (v.1.rename f, v.2) := by
    rw [List.filterMap_map, List.map_filterMap]
    apply List.filterMap_congr
    intro e _
    cases e with
    | way w => simp [Element.rename, Element.drivable?, Way.rename, Function.comp_def]
    | node | relation => rfl
  rw [lines, lines, courses_eq, courses_eq, drivable, List.map_map, List.map_map, List.map_map, List.map_map]
  apply List.map_congr_left
  intro v _
  exact congrArg (Line.mk _) (locate_rename inj elements v.1.refs)

/-- **The names of nodes do not matter**, as long as different nodes have different names. -/
theorem map_fst_roadMap_rename (elements : List Element) :
    (roadMap (elements.map (Element.rename f))).map (·.1) = (roadMap elements).map (·.1) := by
  rw [map_fst_roadMap_eq, map_fst_roadMap_eq, lines_rename inj, cutLines_rename inj, drawAll_rename inj]

end Injective

end Roadside.OpenStreetMap
