import Roadside.Proofs.OpenStreetMap.Numbering
import Roadside.Proofs.OpenStreetMap.KeptWays
import Roadside.Proofs.OpenStreetMap.Lines

/-!
# Loading reference by reference

The roads of an extract can also be drawn without vertices: `load` goes through the references of each road one by one,
looks up what it needs when it needs it, and remembers the bends since the last node. There are four ways to stumble: a
reference may have no position, a road may have no first or no last reference, and the map in the making may refuse a
segment.

* **A pen follows the stretches** (`Pen.StandsAt`): where drawing the stretches of a road succeeds, going through its
  references comes to the same plot (`Pen.exists_foldlM_visit`, `exists_loadRoad`).
* **Loading never stumbles** (`exists_load`): every extract has a road map, and loading it reference by reference gives
  that map.
-/

namespace Roadside.OpenStreetMap

/-! ## The loader -/

/-- Why a loader cannot go on. -/
inductive Stumble where
  /-- The position of a reference is needed, and there is none. -/
  | unplaced (ref : Int)
  | noFirst (way : Int)
  | noLast (way : Int)
  /-- The map in the making refuses a segment. -/
  | refused (fault : MapFault)
  deriving DecidableEq

def placeOf (known : Positions) (ref : Int) : Except Stumble (Point Float) :=
  match known[ref]? with
  | some position => .ok position
  | none => .error (.unplaced ref)

/-- The first reference of a road. -/
def Road.first (r : Road) : Except Stumble Int :=
  match r.refs[0]? with
  | some ref => .ok ref
  | none => .error (.noFirst r.way)

/-- The index of a road's last reference. -/
def Road.lastIndex (r : Road) : Except Stumble Nat :=
  match r.refs.length with
  | n + 1 => .ok n
  | 0 => .error (.noLast r.way)

/-- The road without the references that have no position. -/
def Road.placed (r : Road) (known : Positions) : Road := { r with refs := r.refs.filter known.contains }

/-- The node of a reference, which is added when the reference is first seen. -/
def Plot.nodeAt (p : Plot) (known : Positions) (ref : Int) : Except Stumble (NodeId × Plot) :=
  match p.nodes[ref]? with
  | some node => .ok (node, p)
  | none => do
    let position ← placeOf known ref
    let (node, draft) := p.draft.addNode position
    return (node, ⟨draft, p.nodes.insert ref node⟩)

/-- The plot with one more segment. -/
def Plot.link (p : Plot) (s : Segment Float) : Except Stumble Plot :=
  match p.draft.addSegment s with
  | .error fault => .error (.refused fault)
  | .ok (_, draft) => .ok { p with draft }

/-- A plot and what is being drawn there. -/
structure Pen where
  plot : Plot
  /-- The last node that was reached. -/
  base : NodeId
  /-- The positions passed since. -/
  bends : List (Point Float)

namespace Pen

/-- Draws a segment from the base to the node of a reference. -/
def reach (pen : Pen) (known : Positions) (access : Access) (ref : Int) : Except Stumble Pen := do
  let (node, plot) ← pen.plot.nodeAt known ref
  let plot ← plot.link ⟨⟨pen.base, node⟩, access, pen.bends⟩
  return ⟨plot, node, []⟩

/-- Goes on to the reference with some index: its node is reached if it is the last one or shared with other roads. -/
def visit (known : Positions) (isShared : Int → Bool) (access : Access) (last : Nat) (pen : Pen) :
    Int × Nat → Except Stumble Pen
  | (ref, i) => do
    let position ← placeOf known ref
    if i = last || isShared ref then pen.reach known access ref
    else return { pen with bends := pen.bends ++ [position] }

end Pen

/-- Draws a road. -/
def loadRoad (known : Positions) (isShared : Int → Bool) (p : Plot) (r : Road) : Except Stumble Plot := do
  let last ← r.lastIndex
  let first ← r.first
  let (base, plot) ← p.nodeAt known first
  let pen ← (r.refs.zipIdx.drop 1).foldlM (Pen.visit known isShared r.access last) ⟨plot, base, []⟩
  return pen.plot

/-- The road map of an extract, reference by reference. -/
def load (elements : List Element) : Except Stumble (RoadMap Float) := do
  let known := positions elements
  let roads := (elements.filterMap Element.road?).map (·.placed known)
  let counts := tally (roads.flatMap (·.refs))
  let long := roads.filter fun r => 2 ≤ r.refs.length
  let plot ← long.foldlM (loadRoad known fun ref => 1 < counts.getD ref 0) .empty
  return plot.draft.build

/-! ## Plots -/

namespace Plot

variable {p : Plot} {known : Positions} {v : Vertex}

/-- A vertex that lies where its reference does has the node of its reference. -/
theorem nodeAt_eq (placed : known[v.ref]? = some v.position) : p.nodeAt known v.ref = .ok (p.node v) := by
  rw [nodeAt, node]
  cases p.nodes[v.ref]? with
  | some node => rfl
  | none =>
    rw [placeOf, placed]
    rfl

/-- A node that was taken is remembered. -/
theorem getElem?_nodes_node (p : Plot) (v : Vertex) : (p.node v).2.nodes[v.ref]? = some (p.node v).1 := by
  rw [node]
  split
  · assumption
  · exact Std.HashMap.getElem?_insert_self

theorem node_eq {node : NodeId} (known : p.nodes[v.ref]? = some node) : p.node v = (node, p) := by
  rw [Plot.node, known]

/-- A plot in which the start's node was taken already draws the stretch as before. -/
theorem draw_node (p : Plot) (access : Access) (s : Stretch) : (p.node s.start).2.draw access s = p.draw access s := by
  rw [draw, draw, node_eq (getElem?_nodes_node p s.start)]

theorem drawAll_cons (p : Plot) (entry : Access × Stretch) (l : List (Access × Stretch)) :
    p.drawAll (entry :: l) = p.draw entry.1 entry.2 >>= fun q => q.drawAll l := List.foldlM_cons ..

theorem drawAll_append (p : Plot) (l l' : List (Access × Stretch)) :
    p.drawAll (l ++ l') = p.drawAll l >>= fun q => q.drawAll l' := List.foldlM_append ..

end Plot

/-! ## Roads -/

/-- The stretch with more bends, right after its start. -/
def Stretch.bendFirstAll (bends : List Vertex) (s : Stretch) : Stretch := { s with bends := bends ++ s.bends }

theorem modifyHead_bendFirstAll_nil : ∀ l : List Stretch, l.modifyHead (.bendFirstAll []) = l
  | [] => rfl
  | _ :: _ => rfl

theorem modifyHead_bendFirstAll_bendFirst (bends : List Vertex) (v : Vertex) : ∀ l : List Stretch,
    (l.modifyHead (.bendFirst v)).modifyHead (.bendFirstAll bends) = l.modifyHead (.bendFirstAll (bends ++ [v]))
  | [] => rfl
  | s :: l => by simp [Stretch.bendFirstAll, Stretch.bendFirst]

namespace Pen

variable {known : Positions} {isShared : Int → Bool} {access : Access} {pen : Pen} {start v : Vertex}
  {bends : List Vertex} {p' : Plot}

/-- The pen was last at the node of `start`, and it has passed these bends since. -/
structure StandsAt (pen : Pen) (start : Vertex) (bends : List Vertex) : Prop where
  base : pen.plot.nodes[start.ref]? = some pen.base
  passed : pen.bends = bends.map (·.position)

/-- Where a stretch can be drawn, its last reference is reached. -/
theorem exists_reach (stands : pen.StandsAt start bends) (placed : known[v.ref]? = some v.position)
    (drawn : pen.plot.draw access ⟨start, bends, v⟩ = .ok p') :
    ∃ pen', pen.reach known access v.ref = .ok pen' ∧ pen'.plot = p' ∧ pen'.StandsAt v [] := by
  have remembered := pen.plot.getElem?_nodes_node v
  unfold Plot.draw at drawn
  unfold reach
  rw [Plot.node_eq stands.base] at drawn
  rw [Plot.nodeAt_eq placed, stands.passed]
  dsimp only at drawn
  generalize pen.plot.node v = taken at drawn remembered ⊢
  obtain ⟨node, q⟩ := taken
  change (q.draft.addSegment ⟨⟨pen.base, node⟩, access, bends.map (·.position)⟩ >>= _) = _ at drawn
  obtain ⟨⟨edge, draft⟩, added, drawn⟩ := exists_of_bind_eq_ok drawn
  cases drawn
  have linked : q.link ⟨⟨pen.base, node⟩, access, bends.map (·.position)⟩ = .ok { q with draft } := by
    rw [Plot.link, added]
  refine ⟨⟨{ q with draft }, node, []⟩, ?_, rfl, remembered, rfl⟩
  show (q.link _ >>= _) = _
  rw [linked]
  rfl

/-- Going through the references behind `start` draws the stretches of the line that goes on there. -/
theorem exists_foldlM_visit {last : Nat} {rest : List Vertex} {i : Nat} (stands : pen.StandsAt start bends)
    (placed : ∀ v ∈ rest, known[v.ref]? = some v.position) (index : i + rest.length = last + 1)
    (drawn : pen.plot.drawAll (((stretchesFrom (fun v => isShared v.ref) start rest).modifyHead
      (.bendFirstAll bends)).map fun s => (access, s)) = .ok p') :
    ∃ pen', ((rest.map (·.ref)).zipIdx i).foldlM (visit known isShared access last) pen = .ok pen' ∧
      pen'.plot = p' := by
  induction rest generalizing pen start bends i with
  | nil =>
    cases drawn
    exact ⟨pen, rfl, rfl⟩
  | cons v rest ih =>
    have here : known[v.ref]? = some v.position := placed v List.mem_cons_self
    have later : ∀ w ∈ rest, known[w.ref]? = some w.position := fun w hw => placed w (List.mem_cons_of_mem v hw)
    have next : i + 1 + rest.length = last + 1 := by
      rw [← index, List.length_cons]
      omega
    have isLast : (i = last) ↔ rest.isEmpty = true := by
      rw [List.isEmpty_iff, ← List.length_eq_zero_iff]
      omega
    have step : visit known isShared access last pen (v.ref, i) =
        if rest.isEmpty || isShared v.ref then pen.reach known access v.ref
        else .ok { pen with bends := pen.bends ++ [v.position] } := by
      rw [visit, placeOf, here]
      simp [isLast]
      rfl
    rw [List.map_cons, List.zipIdx_cons, List.foldlM_cons, step]
    unfold stretchesFrom at drawn
    split at drawn
    case isTrue cut =>
      rw [if_pos cut]
      rw [List.modifyHead_cons, List.map_cons, Plot.drawAll_cons] at drawn
      obtain ⟨q, first, others⟩ := exists_of_bind_eq_ok drawn
      rw [Stretch.bendFirstAll, List.append_nil] at first
      obtain ⟨pen', reached, rfl, stands'⟩ := exists_reach stands here first
      rw [reached]
      rw [← modifyHead_bendFirstAll_nil (stretchesFrom _ v rest)] at others
      exact ih stands' later next others
    case isFalse through =>
      rw [if_neg through]
      rw [modifyHead_bendFirstAll_bendFirst] at drawn
      have stands' : StandsAt { pen with bends := pen.bends ++ [v.position] } start (bends ++ [v]) :=
        ⟨stands.base, by rw [stands.passed, List.map_append]; rfl⟩
      exact ih stands' later next drawn

end Pen

/-! ## Extracts -/

/-- The road of a course, with the references that it runs through. -/
def Course.placedRoad (c : Course) : Road := { c.road with refs := c.vertices.map (·.ref) }

/-- The vertices of a course lie where their references do. -/
def Course.IsPlaced (c : Course) (known : Positions) : Prop := ∀ v ∈ c.vertices, known[v.ref]? = some v.position

theorem filter_contains_positions (elements : List Element) (refs : List Int) :
    refs.filter (positions elements).contains = knownRefs elements refs := by
  refine List.filter_congr fun ref _ => ?_
  rw [Std.HashMap.contains_eq_isSome_getElem?, getElem?_positions]

/-- The roads that are left when the dangling references are dropped are those of the courses. -/
theorem map_placed_roads (elements : List Element) :
    (elements.filterMap Element.road?).map (·.placed (positions elements)) =
      (courses elements).map Course.placedRoad := by
  rw [courses, List.map_map]
  refine List.map_congr_left fun r _ => ?_
  rw [Road.placed, filter_contains_positions, ← map_ref_locate]
  rfl

theorem isPlaced_of_mem_courses {elements : List Element} {c : Course} (h : c ∈ courses elements) :
    c.IsPlaced (positions elements) := by
  obtain ⟨r, -, rfl⟩ := List.mem_map.1 h
  intro v hv
  rw [getElem?_positions]
  exact lastPosition?_of_mem_locate elements r.refs hv

section Roads

variable {known : Positions} {isShared : Int → Bool} {p p' : Plot}

/-- The stretches of a line are drawn as well when the node of its start has been taken before. -/
theorem drawAll_node {isCut : Vertex → Bool} {access : Access} {start : Vertex} {rest : List Vertex}
    (more : rest ≠ []) : (p.node start).2.drawAll ((stretchesFrom isCut start rest).map fun s => (access, s)) =
      p.drawAll ((stretchesFrom isCut start rest).map fun s => (access, s)) := by
  have goesOn : stretchesFrom isCut start rest ≠ [] := stretchesFrom_ne_nil more
  obtain ⟨s, others, line⟩ := List.exists_cons_of_ne_nil goesOn
  have first : (stretchesFrom isCut start rest).head? = some s := by rw [line, List.head?_cons]
  have begins : s.start = start := start_head?_stretchesFrom first
  rw [line, List.map_cons, Plot.drawAll_cons, Plot.drawAll_cons, ← begins, Plot.draw_node]

/-- Where the stretches of a road can be drawn, the road can be loaded. -/
theorem loadRoad_eq {c : Course} (long : c.isLine = true) (placed : c.IsPlaced known)
    (drawn : p.drawAll ((stretches (fun v => isShared v.ref) c.vertices).map fun s => (c.road.access, s)) = .ok p') :
    loadRoad known isShared p c.placedRoad = .ok p' := by
  obtain ⟨road, vertices⟩ := c
  match vertices, long with
  | start :: next :: rest, _ =>
    have first : known[start.ref]? = some start.position := placed start List.mem_cons_self
    have later : ∀ v ∈ next :: rest, known[v.ref]? = some v.position :=
      fun v hv => placed v (List.mem_cons_of_mem start hv)
    have stands : Pen.StandsAt ⟨(p.node start).2, (p.node start).1, []⟩ start [] := ⟨p.getElem?_nodes_node start, rfl⟩
    have taken : (p.node start).2.drawAll ((stretchesFrom (fun v => isShared v.ref) start (next :: rest)).map
        fun s => (road.access, s)) = .ok p' :=
      (drawAll_node (List.cons_ne_nil next rest)).trans drawn
    rw [← modifyHead_bendFirstAll_nil (stretchesFrom _ start (next :: rest))] at taken
    obtain ⟨pen, visited, rfl⟩ := Pen.exists_foldlM_visit stands later (Nat.add_comm 1 _) taken
    have last : (Course.placedRoad ⟨road, start :: next :: rest⟩).lastIndex = .ok (next :: rest).length := by
      simp [Road.lastIndex, Course.placedRoad]
    have ref : (Course.placedRoad ⟨road, start :: next :: rest⟩).first = .ok start.ref := rfl
    unfold loadRoad
    rw [last, ref]
    show p.nodeAt known start.ref >>= _ = _
    rw [Plot.nodeAt_eq first]
    show (do let pen ← (((next :: rest).map (·.ref)).zipIdx 1).foldlM
              (Pen.visit known isShared road.access (next :: rest).length) ⟨(p.node start).2, (p.node start).1, []⟩
             return pen.plot) = Except.ok pen.plot
    rw [visited]
    rfl

/-- A road without references would be stumbled over. -/
example (way : Int) : loadRoad known isShared p ⟨way, [], .both⟩ = .error (.noLast way) := rfl

theorem foldlM_loadRoad {lines : List Course} (long : ∀ c ∈ lines, c.isLine = true)
    (placed : ∀ c ∈ lines, c.IsPlaced known) (drawn : p.drawAll (lines.flatMap fun c =>
      (stretches (fun v => isShared v.ref) c.vertices).map fun s => (c.road.access, s)) = .ok p') :
    (lines.map Course.placedRoad).foldlM (loadRoad known isShared) p = .ok p' := by
  induction lines generalizing p with
  | nil =>
    cases drawn
    rfl
  | cons c lines ih =>
    rw [List.flatMap_cons, Plot.drawAll_append] at drawn
    obtain ⟨q, first, others⟩ := exists_of_bind_eq_ok drawn
    have head := loadRoad_eq (long c List.mem_cons_self) (placed c List.mem_cons_self) first
    rw [List.map_cons, List.foldlM_cons, head]
    exact ih (fun d hd => long d (List.mem_cons_of_mem c hd)) (fun d hd => placed d (List.mem_cons_of_mem c hd)) others

end Roads

/-- Where the stretches of an extract can be drawn, the extract can be loaded. -/
theorem load_eq {elements : List Element} {plot : Plot} (drawn : Plot.empty.drawAll (cut (courses elements)) = .ok plot) :
    load elements = .ok plot.draft.build := by
  have lines : ((courses elements).map Course.placedRoad).filter (fun r => 2 ≤ r.refs.length) =
      ((courses elements).filter Course.isLine).map Course.placedRoad := by
    rw [List.filter_map]
    refine congrArg _ (List.filter_congr fun c _ => ?_)
    simp [Course.isLine, Course.placedRoad]
  have counts : tally (((courses elements).map Course.placedRoad).flatMap (·.refs)) = crossings (courses elements) := by
    rw [crossings, List.flatMap_map]
    rfl
  have long : ∀ c ∈ (courses elements).filter Course.isLine, c.isLine = true := fun c hc => (List.mem_filter.1 hc).2
  have placed : ∀ c ∈ (courses elements).filter Course.isLine, c.IsPlaced (positions elements) :=
    fun c hc => isPlaced_of_mem_courses (List.mem_filter.1 hc).1
  have loaded : (((courses elements).filter Course.isLine).map Course.placedRoad).foldlM
      (loadRoad (positions elements) fun ref => 1 < (crossings (courses elements)).getD ref 0) .empty = .ok plot :=
    foldlM_loadRoad long placed drawn
  unfold load
  dsimp only
  rw [map_placed_roads, lines, counts, loaded]
  rfl

/-- **Loading never stumbles**: every extract has a road map, and reference by reference the same map is loaded. -/
theorem exists_load_eq_roadMap (elements : List Element) : ∃ (map : RoadMap Float) (notices : List Notice),
    load elements = .ok map ∧ roadMap elements = .ok (map, notices) := by
  obtain ⟨plot, drawn, -, -⟩ := Plot.Follows.empty.drawAll (cut (courses elements))
  have mapped : (roadMap elements).map (·.1) = .ok plot.draft.build := by
    rw [map_fst_roadMap, drawn]
    rfl
  cases found : roadMap elements with
  | error fault =>
    rw [found] at mapped
    cases mapped
  | ok result =>
    obtain ⟨map, notices⟩ := result
    rw [found] at mapped
    obtain rfl : map = plot.draft.build := Except.ok.inj mapped
    exact ⟨plot.draft.build, notices, load_eq drawn, rfl⟩

end Roadside.OpenStreetMap
