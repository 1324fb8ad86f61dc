import Roadside.Gathering
import Roadside.RoadMap

/-!
# Drafts of road maps

A draft is a road map in the making: nodes are added one by one, and segments between nodes that are there already.
Numbers are given in the order of adding. `Draft.build` packs the draft into a map.

* **A refused segment changes nothing**: adding gives either a new draft or a fault. The first end that is missing is
  the one named. A segment is added iff the draft has its ends (`addSegment_of_hasEnds`, `addSegment_of_not_hasEnds`).
* **A draft can be packed**: its segments end at nodes that it has, so no slot is gathered into a row that does not
  exist (`gather?_slots`).
* **The slots of a node** are the ends of segments there, in the order of adding (`slotsAt_build`).
-/

namespace Roadside

variable {K : Type}

/-- A stretch of road between two nodes. -/
structure Segment (K : Type) where
  ends : Ends
  access : Access
  /-- The points between the ends, from the start to the finish. -/
  bends : List (Point K)
  deriving DecidableEq

namespace Segment

/-- A straight segment. -/
def straight (start finish : NodeId) (access : Access) : Segment K := ⟨⟨start, finish⟩, access, []⟩

/-- The slots that the segment with number `i` fills, each with the index of its node. -/
def slots (s : Segment K) (i : Nat) : List (Nat × Slot) :=
  [(s.ends.start.index, ⟨.ofIndex i, .forward⟩), (s.ends.finish.index, ⟨.ofIndex i, .backward⟩)]

end Segment

/-- A road map in the making; its segments end at nodes that it has. -/
structure Draft (K : Type) where
  positions : Array (Point K)
  segments : Array (Segment K)
  ends_lt : ∀ s ∈ segments, s.ends.start.index < positions.size ∧ s.ends.finish.index < positions.size

namespace Draft

/-- The draft without nodes. -/
def empty : Draft K := ⟨#[], #[], by simp⟩

def position? (d : Draft K) (node : NodeId) : Option (Point K) := d.positions[node.index]?

/-- Adds a node; the draft comes with the node's number. -/
def addNode (d : Draft K) (position : Point K) : NodeId × Draft K :=
  (.ofIndex d.positions.size,
    { d with
      positions := d.positions.push position
      ends_lt := fun s hs => by have := d.ends_lt s hs; simp; omega })

/-- Adds a segment; the draft comes with the edge's number. -/
def addSegment (d : Draft K) (s : Segment K) : Except MapFault (EdgeId × Draft K) :=
  if start_lt : s.ends.start.index < d.positions.size then
    if finish_lt : s.ends.finish.index < d.positions.size then
      .ok (.ofIndex d.segments.size,
        { d with
          segments := d.segments.push s
          ends_lt := fun t ht => by
            rcases Array.mem_push.1 ht with ht | rfl
            · exact d.ends_lt t ht
            · exact ⟨start_lt, finish_lt⟩ })
    else .error (.unknownNode s.ends.finish)
  else .error (.unknownNode s.ends.start)

/-! ### Straight segments -/

/-- Adds a straight segment. -/
def addEdge (d : Draft K) (start finish : NodeId) (access : Access) : Except MapFault (EdgeId × Draft K) :=
  d.addSegment (.straight start finish access)

/-- Adds a road open both ways. -/
def addRoad (d : Draft K) (start finish : NodeId) : Except MapFault (EdgeId × Draft K) := d.addEdge start finish .both

/-- Adds a one-way road. -/
def addOneWay (d : Draft K) (start finish : NodeId) : Except MapFault (EdgeId × Draft K) :=
  d.addEdge start finish .forwardOnly

/-! ### What is added -/

/-- The draft has the nodes that the segment joins. -/
def HasEnds (d : Draft K) (s : Segment K) : Prop :=
  s.ends.start.index < d.positions.size ∧ s.ends.finish.index < d.positions.size

theorem addSegment_of_hasEnds {d : Draft K} {s : Segment K} (h : d.HasEnds s) : ∃ ends_lt,
    d.addSegment s = .ok (.ofIndex d.segments.size, ⟨d.positions, d.segments.push s, ends_lt⟩) := by
  rw [addSegment, dif_pos h.1, dif_pos h.2]
  exact ⟨_, rfl⟩

theorem addSegment_of_not_hasEnds {d : Draft K} {s : Segment K} (h : ¬d.HasEnds s) :
    ∃ fault, d.addSegment s = .error fault := by
  rw [addSegment]
  by_cases start : s.ends.start.index < d.positions.size
  · rw [dif_pos start, dif_neg fun finish => h ⟨start, finish⟩]
    exact ⟨_, rfl⟩
  · rw [dif_neg start]
    exact ⟨_, rfl⟩

/-- A draft is its nodes and its segments. -/
theorem ext_toList {d d' : Draft K} (positions : d.positions.toList = d'.positions.toList)
    (segments : d.segments.toList = d'.segments.toList) : d = d' := by
  cases d
  cases d'
  cases Array.ext' positions
  cases Array.ext' segments
  rfl

/-- All slots, by the index of their node, in the order of the segments. -/
def slots (d : Draft K) : List (Nat × Slot) := d.segments.toList.zipIdx.flatMap fun (s, i) => s.slots i

theorem slots_lt (d : Draft K) : ∀ entry ∈ d.slots, entry.1 < d.positions.size := by
  intro entry h
  simp only [slots, List.mem_flatMap, Segment.slots, List.mem_cons, List.not_mem_nil, or_false] at h
  obtain ⟨⟨s, i⟩, hs, rfl | rfl⟩ := h
  · exact (d.ends_lt s (by simpa using List.fst_mem_of_mem_zipIdx hs)).1
  · exact (d.ends_lt s (by simpa using List.fst_mem_of_mem_zipIdx hs)).2

/-- What a slot holds before it is filled. -/
def emptySlot : Slot := ⟨.unset, .forward⟩

theorem gather?_slots (d : Draft K) : Ragged.gather? emptySlot d.positions.size d.slots =
    some (.ofRows (Ragged.rowsOf d.positions.size d.slots)) := Ragged.gather?_eq d.slots_lt

/-- The map with the nodes and segments of a draft. -/
def build (d : Draft K) : RoadMap K where
  positions := d.positions
  slots := (Ragged.gather? emptySlot d.positions.size d.slots).get (by simp [d.gather?_slots])
  ends := d.segments.map (·.ends)
  access := d.segments.map (·.access)
  bends := .ofRows (d.segments.toList.map (·.bends))

@[simp] theorem nodeCount_build (d : Draft K) : d.build.nodeCount = d.positions.size := rfl

@[simp] theorem edgeCount_build (d : Draft K) : d.build.edgeCount = d.segments.size := by
  simp [RoadMap.edgeCount, build]

/-- The segments of a map that fits can be numbered. -/
theorem size_segments_le {d : Draft K} (fits : d.build.Fits) : d.segments.size ≤ UInt32.size := by
  have slots := fits.slots
  rw [edgeCount_build] at slots
  omega

@[simp] theorem position?_build (d : Draft K) (node : NodeId) : d.build.position? node = d.position? node := rfl

@[simp] theorem ends?_build (d : Draft K) (edge : EdgeId) :
    d.build.ends? edge = d.segments[edge.index]?.map (·.ends) := by
  simp [RoadMap.ends?, build]

@[simp] theorem bends?_build (d : Draft K) (edge : EdgeId) :
    d.build.bends? edge = d.segments[edge.index]?.map (·.bends) := by
  simp [RoadMap.bends?, build]

theorem slots_build (d : Draft K) : d.build.slots = .ofRows (Ragged.rowsOf d.positions.size d.slots) := by
  simp [build, d.gather?_slots]

theorem slotsAt_build {d : Draft K} {node : NodeId} (h : node.index < d.positions.size) :
    d.build.slotsAt node = Ragged.entered node.index d.slots := by
  rw [RoadMap.slotsAt, slots_build, Ragged.row?_gathered h, Option.getD_some]

end Draft

end Roadside
