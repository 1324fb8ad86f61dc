import Roadside.Draft

/-!
# Scripts

A script is a list of steps that make a draft. Each step has a reply: the number of what it added, or the fault for
which it was refused. A refused step leaves the draft as it was, and the script goes on.

* **A segment is added iff the draft has its ends** (`take_segment`, `take_segment_refused`).
* Adding an edge, a road or a one-way road is the step that adds a straight segment (`take_straight`).
-/

namespace Roadside

variable {K : Type}

/-- A step of making a draft. -/
inductive Step (K : Type) where
  | node (position : Point K)
  | segment (s : Segment K)
  deriving DecidableEq

/-- The reply to a step. -/
inductive Reply where
  | node (node : NodeId)
  | edge (edge : EdgeId)
  | refused (fault : MapFault)
  deriving DecidableEq

namespace Draft

/-- Takes a step. -/
def take (d : Draft K) : Step K → Reply × Draft K
  | .node position => (.node (d.addNode position).1, (d.addNode position).2)
  | .segment s =>
    match d.addSegment s with
    | .ok (edge, d) => (.edge edge, d)
    | .error fault => (.refused fault, d)

/-- Takes the steps of a script in order. -/
def run (d : Draft K) : List (Step K) → List Reply × Draft K
  | [] => ([], d)
  | step :: script =>
    let (reply, d) := d.take step
    let (replies, d) := d.run script
    (reply :: replies, d)

theorem run_append (d : Draft K) (script more : List (Step K)) :
    (d.run (script ++ more)).2 = ((d.run script).2.run more).2 := by
  induction script generalizing d with
  | nil => rfl
  | cons step script ih => exact ih (d.take step).2

/-- Edges without bends are added in a step like any others; roads and one-way roads are edges with their access. -/
theorem take_straight (d : Draft K) (start finish : NodeId) (access : Access) :
    d.take (.segment (.straight start finish access)) =
      match d.addEdge start finish access with
      | .ok (edge, d) => (.edge edge, d)
      | .error fault => (.refused fault, d) := rfl

theorem take_segment {d : Draft K} {s : Segment K} (h : d.HasEnds s) : ∃ ends_lt,
    d.take (.segment s) = (.edge (.ofIndex d.segments.size), ⟨d.positions, d.segments.push s, ends_lt⟩) := by
  obtain ⟨ends_lt, added⟩ := addSegment_of_hasEnds h
  exact ⟨ends_lt, by rw [take, added]⟩

theorem take_segment_refused {d : Draft K} {s : Segment K} (h : ¬d.HasEnds s) :
    ∃ fault, d.take (.segment s) = (.refused fault, d) := by
  obtain ⟨fault, refused⟩ := addSegment_of_not_hasEnds h
  exact ⟨fault, by rw [take, refused]⟩

end Draft

/-- The map that a script makes. -/
def mapOf (script : List (Step K)) : RoadMap K := (Draft.empty.run script).2.build

end Roadside
