import Roadside.Draft
import Roadside.Event
import Roadside.OpenStreetMap.Stretch
import Roadside.OpenStreetMap.Tagging
import Std.Data.HashMap

/-!
# From an extract to a road map

The roads of an extract are cut where they end and where roads meet; the vertices at the cuts become the nodes of the
road map and the stretches between them its edges.

* `locate` finds the vertices of a road. A node that the extract does not hold is left out, and where an extract holds
  a node twice the later position counts.
* `tally` counts how often the roads name a vertex. Vertices named more than once are where roads meet.
* `Plot.draw` adds a stretch to the map in the making; a vertex becomes a node when the first stretch needs it.
* `roadMap` does it all.
-/

namespace Roadside.OpenStreetMap

/-! ## Vertices -/

abbrev Positions := Std.HashMap Int (Point Float)

def Element.enter (positions : Positions) : Element → Positions
  | .node id position => positions.insert id position
  | .way _ | .relation _ => positions

/-- The positions of all nodes of an extract. -/
def positions (elements : List Element) : Positions := elements.foldl Element.enter ∅

/-- The vertices with known positions among the named ones, in order. -/
def locate (positions : Positions) (refs : List Int) : List Vertex :=
  refs.filterMap fun ref => positions[ref]?.map fun position => ⟨ref, position⟩

structure Course where
  road : Road
  vertices : List Vertex
  deriving DecidableEq

/-- The roads of an extract, in order. -/
def courses (elements : List Element) : List Course :=
  let known := positions elements
  (elements.filterMap Element.road?).map fun road => ⟨road, locate known road.refs⟩

/-- What is to be noted about a road: how many of its nodes are missing, if any. -/
def Course.notice? (c : Course) : Option Notice :=
  let missing := c.road.refs.length - c.vertices.length
  if missing = 0 then none else some (.missingNodes c.road.way missing)

/-! ## Crossings -/

def tally (refs : List Int) : Std.HashMap Int Nat :=
  refs.foldl (fun counts ref => counts.insert ref (counts.getD ref 0 + 1)) ∅

/-- How often the roads run through each vertex. -/
def crossings (courses : List Course) : Std.HashMap Int Nat :=
  tally (courses.flatMap fun c => c.vertices.map (·.ref))

/-- A course long enough to have a stretch. -/
def Course.isLine (c : Course) : Bool := 2 ≤ c.vertices.length

/-- The stretches of the courses, each with the access of its road. -/
def cut (courses : List Course) : List (Access × Stretch) :=
  let counts := crossings courses
  (courses.filter Course.isLine).flatMap fun c =>
    (stretches (fun v => 1 < counts.getD v.ref 0) c.vertices).map fun s => (c.road.access, s)

/-! ## Plotting -/

/-- A map in the making, with the nodes that vertices have become. -/
structure Plot where
  draft : Draft Float
  nodes : Std.HashMap Int NodeId

namespace Plot

def empty : Plot := ⟨.empty, ∅⟩

/-- The node of a vertex, which is added when the vertex is first seen. -/
def node (p : Plot) (v : Vertex) : NodeId × Plot :=
  match p.nodes[v.ref]? with
  | some node => (node, p)
  | none =>
    let (node, draft) := p.draft.addNode v.position
    (node, ⟨draft, p.nodes.insert v.ref node⟩)

/-- Adds a stretch between the nodes of its ends. -/
def draw (p : Plot) (access : Access) (s : Stretch) : Except MapFault Plot := do
  let (start, p) := p.node s.start
  let (finish, p) := p.node s.finish
  let (_, draft) ← p.draft.addSegment ⟨⟨start, finish⟩, access, s.bends.map (·.position)⟩
  return { p with draft }

def drawAll (p : Plot) (stretches : List (Access × Stretch)) : Except MapFault Plot :=
  stretches.foldlM (fun p (access, s) => p.draw access s) p

end Plot

/-- The road map of an extract, with what is to be noted about the extract. -/
def roadMap (elements : List Element) : Except MapFault (RoadMap Float × List Notice) := do
  let courses := courses elements
  let plot ← Plot.empty.drawAll (cut courses)
  let map := plot.draft.build
  let lines := courses.countP Course.isLine
  return (map, courses.filterMap Course.notice? ++ [.loaded lines map.nodeCount map.edgeCount])

end Roadside.OpenStreetMap
