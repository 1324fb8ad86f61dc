import Mathlib.Logic.Equiv.Basic
import Roadside.Proofs.Renumbering
import Roadside.Proofs.Reversal
import Roadside.Proofs.Segments

/-!
# A block of edges turned around

Edges whose numbers follow one another make a block. A draft may have the segments of a block turned around and in
reverse order, and all nodes under new numbers. Then its map has the same roads:

* **Every ride has its counterpart** (`Redrawn.rides`), from node to node along the same course, on the edge that stands
  for its own.
* **Directions stay the same** (`Redrawn.resolve`), under the new numbers, as long as no edge of the block is open both
  ways: the edges at a node are listed in another order only if some of them belong to the block, and then they are not
  the two halves of a two-way road.
-/

namespace Roadside

variable {K : Type}

/-! ## Blocks -/

/-- A number of edges whose numbers follow one another. -/
structure Block where
  first : Nat
  count : Nat

namespace Block

variable (b : Block)

/-- The number is that of an edge of the block. -/
def has (i : Nat) : Bool := b.first ≤ i && i < b.first + b.count

/-- The number that an edge gets where the edges of the block are numbered in reverse order. -/
def mirror (i : Nat) : Nat := if b.has i then 2 * b.first + b.count - 1 - i else i

variable {b} {i : Nat}

theorem has_iff : b.has i = true ↔ b.first ≤ i ∧ i < b.first + b.count := by
  simp [has]

theorem mirror_of_has (inside : b.has i = true) : b.mirror i = 2 * b.first + b.count - 1 - i := if_pos inside

theorem mirror_of_not_has (outside : b.has i = false) : b.mirror i = i := if_neg (by simp [outside])

@[simp] theorem has_mirror (b : Block) (i : Nat) : b.has (b.mirror i) = b.has i := by
  cases inside : b.has i with
  | false => rw [mirror_of_not_has inside, inside]
  | true =>
    rw [mirror_of_has inside, has_iff]
    rw [has_iff] at inside
    omega

@[simp] theorem mirror_mirror (b : Block) (i : Nat) : b.mirror (b.mirror i) = i := by
  cases inside : b.has i with
  | false => rw [mirror_of_not_has inside, mirror_of_not_has inside]
  | true =>
    rw [mirror_of_has (i := b.mirror i) (by rw [has_mirror, inside]), mirror_of_has inside]
    rw [has_iff] at inside
    omega

theorem mirror_lt_iff {n : Nat} (fits : b.first + b.count ≤ n) : b.mirror i < n ↔ i < n := by
  cases inside : b.has i with
  | false => rw [mirror_of_not_has inside]
  | true =>
    rw [mirror_of_has inside]
    rw [has_iff] at inside
    omega

/-- The edges, with those of the block numbered in reverse order. -/
def turn (b : Block) (fits : b.first + b.count ≤ UInt32.size) : Equiv.Perm EdgeId :=
  Function.Involutive.toPerm (fun e => .ofIndex (b.mirror e.index)) fun e => by
    simp only [Ident.index_ofIndex ((mirror_lt_iff fits).2 e.index_lt), mirror_mirror, Ident.ofIndex_index]

theorem index_turn (fits : b.first + b.count ≤ UInt32.size) (e : EdgeId) :
    (b.turn fits e).index = b.mirror e.index :=
  Ident.index_ofIndex ((mirror_lt_iff fits).2 e.index_lt)

end Block

/-- Numbered backward, a list has its numbers in reverse order. -/
theorem zipIdx_reverse {α : Type} (l : List α) (k : Nat) :
    l.reverse.zipIdx k = ((l.zipIdx k).map fun (x, i) => (x, 2 * k + l.length - 1 - i)).reverse := by
  apply List.ext_getElem?
  intro j
  by_cases h : j < l.length
  · simp [h]
    omega
  · simp [h]

/-- In a list in which a block is reversed, with each of its items changed by `f`, the items are found under the numbers
of the mirror. -/
theorem getElem?_mirror {α : Type} (before block after : List α) (f : α → α) (i : Nat) :
    (before ++ ((block.map f).reverse ++ after))[(Block.mk before.length block.length).mirror i]? =
      (before ++ (block ++ after))[i]?.map fun x => if (Block.mk before.length block.length).has i then f x else x := by
  cases inside : (Block.mk before.length block.length).has i with
  | false =>
    rw [Block.mirror_of_not_has inside]
    simp only [Bool.false_eq_true, if_false, Option.map_id']
    have outside : ¬(before.length ≤ i ∧ i < before.length + block.length) := fun h => by
      rw [Block.has_iff.2 h] at inside
      cases inside
    by_cases low : i < before.length
    · rw [List.getElem?_append_left low, List.getElem?_append_left low]
    · have high : before.length + block.length ≤ i := by omega
      rw [← List.append_assoc, ← List.append_assoc, List.getElem?_append_right (by simpa using high),
        List.getElem?_append_right (by simpa using high)]
      simp
  | true =>
    obtain ⟨low, high⟩ : before.length ≤ i ∧ i < before.length + block.length := Block.has_iff.1 inside
    have mirrored : (Block.mk before.length block.length).mirror i = 2 * before.length + block.length - 1 - i :=
      Block.mirror_of_has inside
    have here : i - before.length < block.length := by omega
    have there : 2 * before.length + block.length - 1 - i - before.length < block.length := by omega
    have mirror : block.length - 1 - (2 * before.length + block.length - 1 - i - before.length) = i - before.length :=
      by omega
    rw [mirrored, List.getElem?_append_right (by omega), List.getElem?_append_left (by simpa using there),
      List.getElem?_append_right low, List.getElem?_append_left here, List.getElem?_reverse (by simpa using there),
      List.length_map, mirror, List.getElem?_map]
    simp

/-! ## Rides -/

def Ride.renumber (r : Renumbering) (ride : Ride K) : Ride K :=
  { ride with start := r.nodes ride.start, finish := r.nodes ride.finish }

/-- The ride along an edge in a direction in which it is open. -/
def RoadMap.ride? (map : RoadMap K) : EdgeId × Travel → Option (Ride K)
  | (edge, t) => if map.allows edge t then (map.segment? edge).map (map.rideAlong · t) else none

/-- Turned around, a segment is ridden the other way. -/
theorem RoadMap.rideAlong_reverse (map : RoadMap K) (s : Segment K) (t : Travel) :
    map.rideAlong s.reverse t.reverse = map.rideAlong s t := by
  cases t <;> simp [rideAlong, Segment.reverse, Segment.bendsAlong, Ends.source, Travel.reverse]

/-- The directions of travel along an edge, the other way round if it belongs to the block. -/
def Block.travels (b : Block) (e : EdgeId) : Equiv.Perm Travel :=
  Function.Involutive.toPerm (fun t => if b.has e.index then t.reverse else t) fun t => by
    cases b.has e.index <;> simp

/-- Directions along edges under new numbers, where the edges of the block are stored the other way round. -/
def Renumbering.travels (r : Renumbering) (b : Block) : Equiv.Perm (EdgeId × Travel) :=
  Equiv.prodShear r.edges b.travels

theorem Renumbering.travels_apply (r : Renumbering) (b : Block) (e : EdgeId) (t : Travel) :
    r.travels b (e, t) = (r.edges e, if b.has e.index then t.reverse else t) := rfl

/-! ## Maps with the same roads -/

/-- The second map has the roads of the first one: its nodes and edges have new numbers, and the edges of a block are
stored the other way round. -/
structure Redrawn [Scalar K] (r : Renumbering) (block : Block) (map map' : RoadMap K) : Prop where
  nodeCount : map'.nodeCount = map.nodeCount
  edgeCount : map'.edgeCount = map.edgeCount
  positions : ∀ node : NodeId, map'.position? (r.nodes node) = map.position? node
  /-- No edge outside the block has a new number. -/
  outside : ∀ e : EdgeId, block.has e.index = false → r.edges e = e
  /-- The edges of the block are turned around, and the nodes of all edges have their new numbers. -/
  segments : ∀ e : EdgeId, map'.segment? (r.edges e) =
    (map.segment? e).map fun s => (if block.has e.index then s.reverse else s).renumber r
  /-- Each direction of each edge stands for one direction of one edge, and their rides lead from node to node along the
  same course. -/
  rides : ∀ x, map'.ride? (r.travels block x) = (map.ride? x).map (Ride.renumber r)
  resolve : ∀ (rule : SideRule K) (node : NodeId) (query : Point K), node.index < map.nodeCount →
    resolve map'.view map'.allows rule (r.nodes node) query =
      (resolve map.view map.allows rule node query).map (Directions.renumber r)

namespace Draft

theorem ride?_build (d : Draft K) (edge : EdgeId) (t : Travel) : d.build.ride? (edge, t) =
    (d.segments[edge.index]?.filter (·.access.allows t)).map (d.build.rideAlong · t) := by
  rw [RoadMap.ride?, segment?_build]
  cases here : d.segments[edge.index]? with
  | none => simp
  | some s =>
    rw [allows_build here, Option.filter_some]
    split <;> rfl

/-! ## The arms of numbered segments -/

section ArmsIn

variable {d d' : Draft K} {l : List (Segment K)} {k : Nat}

/-- The arms that segments with the numbers from `first` on have at a node. -/
def armsIn (d : Draft K) (l : List (Segment K)) (first : Nat) (node : NodeId) : List (Arm K) :=
  (l.zipIdx first).flatMap fun (s, i) => d.arms s i node

theorem armsIn_append (d : Draft K) (l l' : List (Segment K)) (k : Nat) (node : NodeId) :
    d.armsIn (l ++ l') k node = d.armsIn l k node ++ d.armsIn l' (k + l.length) node := by
  rw [armsIn, List.zipIdx_append, List.flatMap_append, armsIn, armsIn]

/-- An arm that is good both to arrive and to leave belongs to a segment that is open both ways. -/
theorem exists_of_mem_armsIn {node : NodeId} {a : Arm K} (h : a ∈ d.armsIn l k node) (both : a.usage = .both) :
    ∃ s ∈ l, s.access = .both := by
  obtain ⟨⟨s, i⟩, mem, ha⟩ := List.mem_flatMap.1 h
  obtain ⟨t, -, ht⟩ := List.mem_filterMap.1 ha
  obtain ⟨anchor, -, rfl⟩ := Option.map_eq_some_iff.1 ht
  obtain ⟨arrive, leave⟩ := Usage.eq_both_iff.1 both
  have allowed : ∀ t', s.access.allows t' = true := by
    cases t with
    | forward => exact fun | .forward => leave | .backward => arrive
    | backward => exact fun | .forward => arrive | .backward => leave
  exact ⟨s, List.fst_mem_of_mem_zipIdx mem, Access.ext_allows fun t' => (allowed t').trans (by cases t' <;> rfl)⟩

variable {r : Renumbering} (positions : ∀ node, d'.position? (r.nodes node) = d.position? node)
include positions

/-- Segments that keep their numbers have the arms that they had. -/
theorem armsIn_renumber (kept : ∀ i, k ≤ i → i < k + l.length → r.edges (.ofIndex i) = .ofIndex i) (node : NodeId) :
    d'.armsIn (l.map (Segment.renumber r)) k (r.nodes node) = (d.armsIn l k node).map (Arm.renumber r) := by
  rw [armsIn, List.zipIdx_map, List.flatMap_map, armsIn, List.map_flatMap]
  refine List.flatMap_congr fun entry mem => arms_renumber positions (kept entry.2 ?_ ?_) node
  · exact List.le_snd_of_mem_zipIdx mem
  · exact List.snd_lt_add_of_mem_zipIdx mem

/-- Segments that are turned around, and numbered in reverse order, have the arms that they had in reverse order. -/
theorem armsIn_turned
    (turned : ∀ i, k ≤ i → i < k + l.length → r.edges (.ofIndex i) = .ofIndex (2 * k + l.length - 1 - i))
    (node : NodeId) : d'.armsIn ((l.map Segment.reverse).reverse.map (Segment.renumber r)) k (r.nodes node) =
      (d.armsIn l k node).reverse.map (Arm.renumber r) := by
  rw [List.map_reverse, List.map_reverse, List.map_map, armsIn, zipIdx_reverse, List.length_map, List.zipIdx_map,
    List.map_map, List.flatMap_reverse, List.flatMap_map, armsIn, List.map_flatMap]
  refine congrArg List.reverse (List.flatMap_congr fun entry mem => ?_)
  have number := turned entry.2 (List.le_snd_of_mem_zipIdx mem) (List.snd_lt_add_of_mem_zipIdx mem)
  have turnedArms : d'.arms (entry.1.reverse.renumber r) (2 * k + l.length - 1 - entry.2) (r.nodes node) =
      (d'.arms (entry.1.renumber r) (2 * k + l.length - 1 - entry.2) (r.nodes node)).reverse :=
    arms_reverse d' (entry.1.renumber r) _ _
  rw [← arms_renumber positions number, ← List.reverse_reverse (d'.arms _ _ _), ← turnedArms]
  rfl

end ArmsIn

/-! ## Drafts that differ in a block -/

/-- In the second draft a block of segments is turned around and in reverse order, and all has new numbers. -/
structure BlockTurned (r : Renumbering) (before block after : List (Segment K)) (d d' : Draft K) : Prop where
  segments : d.segments.toList = before ++ (block ++ after)
  segments' : d'.segments.toList =
    (before ++ ((block.map Segment.reverse).reverse ++ after)).map (Segment.renumber r)
  size : d'.positions.size = d.positions.size
  positions : ∀ node, d'.position? (r.nodes node) = d.position? node
  edges : ∀ e : EdgeId, (r.edges e).index = (Block.mk before.length block.length).mirror e.index

namespace BlockTurned

variable {r : Renumbering} {before block after : List (Segment K)} {d d' : Draft K}
  (h : BlockTurned r before block after d d')
include h

theorem size_segments : d'.segments.size = d.segments.size := by
  rw [← Array.length_toList, h.segments', ← Array.length_toList, h.segments]
  simp

/-- An edge of the second draft is that of the first one, turned around if it belongs to the block. -/
theorem getElem?_segments (e : EdgeId) :
    d'.segments[(r.edges e).index]? = d.segments[e.index]?.map fun s =>
      (if (Block.mk before.length block.length).has e.index then s.reverse else s).renumber r := by
  rw [h.edges, ← Array.getElem?_toList, h.segments', List.getElem?_map, getElem?_mirror, Option.map_map,
    ← Array.getElem?_toList, h.segments]
  rfl

/-! ### The arms of a node -/

section Arms

variable (fits : d.segments.size ≤ UInt32.size)
include fits

theorem edges_ofIndex {i : Nat} (inside : i < before.length + (block.length + after.length)) :
    r.edges (.ofIndex i) = .ofIndex ((Block.mk before.length block.length).mirror i) := by
  have length : d.segments.size = before.length + (block.length + after.length) := by
    simpa using congrArg List.length h.segments
  have inBounds : before.length + block.length ≤ UInt32.size := by omega
  rw [← Ident.index_inj, h.edges, Ident.index_ofIndex (by omega), Ident.index_ofIndex]
  exact (Block.mirror_lt_iff inBounds).2 (by omega)

theorem edges_ofIndex_outside {i : Nat} (inside : i < before.length + (block.length + after.length))
    (outside : ¬(before.length ≤ i ∧ i < before.length + block.length)) : r.edges (.ofIndex i) = .ofIndex i := by
  have not_has : (Block.mk before.length block.length).has i = false :=
    Bool.eq_false_iff.2 fun has => outside (Block.has_iff.1 has)
  rw [h.edges_ofIndex fits inside, Block.mirror_of_not_has not_has]

theorem armsAt (node : NodeId) :
    d.build.armsAt node = d.armsIn before 0 node ++ (d.armsIn block before.length node ++
      d.armsIn after (before.length + block.length) node) := by
  rw [armsAt_build fits, h.segments, ← armsIn, armsIn_append, armsIn_append, Nat.zero_add]

/-- At a node of the second draft, the arms that belong to the block are listed in reverse order. -/
theorem armsAt' (node : NodeId) :
    d'.build.armsAt (r.nodes node) = (d.armsIn before 0 node ++ ((d.armsIn block before.length node).reverse ++
      d.armsIn after (before.length + block.length) node)).map (Arm.renumber r) := by
  have length : ((block.map Segment.reverse).reverse.map (Segment.renumber r)).length = block.length := by simp
  rw [armsAt_build (by rwa [h.size_segments]), h.segments', ← armsIn, List.map_append, List.map_append, armsIn_append,
    armsIn_append, List.length_map, Nat.zero_add, length, List.map_append, List.map_append]
  congr 1
  · refine armsIn_renumber h.positions (fun i _ below => h.edges_ofIndex_outside fits ?_ ?_) node <;> omega
  congr 1
  · refine armsIn_turned h.positions (fun i above below => ?_) node
    rw [h.edges_ofIndex fits (by omega), Block.mirror_of_has (Block.has_iff.2 ⟨above, below⟩)]
  · refine armsIn_renumber h.positions (fun i above below => h.edges_ofIndex_outside fits ?_ ?_) node <;> omega

/-- If the block has no edge that is open both ways, then it does not matter that its arms are listed in reverse. -/
theorem layout_eq (single : ∀ s ∈ block, s.access ≠ .both) (node : NodeId) (position : Point K) :
    (⟨r.nodes node, position, d'.build.armsAt (r.nodes node)⟩ : Neighborhood K).layout =
      (⟨node, position, d.build.armsAt node⟩ : Neighborhood K).layout.renumber r := by
  refine Neighborhood.layout_renumber_perm ?_ fun a b listed first second => ?_
  · rw [h.armsAt' fits, h.armsAt fits]
    exact (((List.reverse_perm _).append_right _).append_left _).map _
  · rw [h.armsAt fits] at listed
    -- an arm of the block is neither of the two halves of a two-way road
    have none : d.armsIn block before.length node = [] := by
      refine List.eq_nil_iff_forall_not_mem.2 fun c mem => ?_
      have here : c ∈ [a, b] := listed ▸ List.mem_append_right _ (List.mem_append_left _ mem)
      have both : c.usage = .both := by
        rcases List.mem_pair.1 here with rfl | rfl
        · exact first
        · exact second
      obtain ⟨s, hs, access⟩ := exists_of_mem_armsIn mem both
      exact single s hs access
    rw [none, List.nil_append] at listed
    rw [h.armsAt' fits, none, List.reverse_nil, List.nil_append]
    exact congrArg (List.map (Arm.renumber r)) listed

theorem resolve_turned [Scalar K] (single : ∀ s ∈ block, s.access ≠ .both) (rule : SideRule K) (query : Point K)
    {node : NodeId} (known : node.index < d.positions.size) :
    resolve d'.build.view d'.build.allows rule (r.nodes node) query =
      (resolve d.build.view d.build.allows rule node query).map (Directions.renumber r) := by
  obtain ⟨position, here⟩ : ∃ position, d.build.view.position? node = some position :=
    ⟨_, Array.getElem?_eq_getElem known⟩
  have here' : d'.build.view.position? (r.nodes node) = some position := (h.positions node).trans here
  rw [resolve_eq, resolve_eq, survey_eq, survey_eq, here, here']
  cases query.checked with
  | error fault => rfl
  | ok query =>
    have layout := h.layout_eq fits single node position
    exact congrArg Except.ok (Neighborhood.directions_renumber (by rfl) layout rule query)

end Arms

/-! ### Rides -/

theorem rideAlong_renumber (s : Segment K) (t : Travel) :
    d'.build.rideAlong (s.renumber r) t = (d.build.rideAlong s t).renumber r := by
  have positions (node : NodeId) : d'.build.position? (r.nodes node) = d.build.position? node := h.positions node
  have ends : (s.renumber r).ends = s.ends.renumber r := rfl
  simp only [RoadMap.rideAlong, ends, Ends.source_renumber, Ends.target_renumber, positions, Ride.renumber]
  cases t <;> rfl

/-- Each ride has its counterpart. -/
theorem ride?_travels (x : EdgeId × Travel) :
    d'.build.ride? (r.travels ⟨before.length, block.length⟩ x) = (d.build.ride? x).map (Ride.renumber r) := by
  obtain ⟨e, t⟩ := x
  rw [Renumbering.travels_apply, ride?_build, ride?_build, h.getElem?_segments]
  cases here : d.segments[e.index]? with
  | none => rfl
  | some s =>
    cases inside : (Block.mk before.length block.length).has e.index with
    | false =>
      have allows : (s.renumber r).access.allows t = s.access.allows t := rfl
      simp only [Option.map_some, Bool.false_eq_true, if_false, Option.filter_some, allows]
      split
      · simp [h.rideAlong_renumber]
      · rfl
    | true =>
      have allows : (s.reverse.renumber r).access.allows t.reverse = s.access.allows t := by
        cases t <;> rfl
      simp only [Option.map_some, if_true, Option.filter_some, allows]
      split
      · simp [h.rideAlong_renumber, RoadMap.rideAlong_reverse]
      · rfl

end BlockTurned

/-- **A block turned around makes no difference**: if a draft has the segments of a block turned around and in reverse
order, and none of them is open both ways, then its map has the same roads. -/
theorem redrawn_build [Scalar K] {r : Renumbering} {before block after : List (Segment K)} {d d' : Draft K}
    (h : BlockTurned r before block after d d') (fits : d.segments.size ≤ UInt32.size)
    (single : ∀ s ∈ block, s.access ≠ .both) : Redrawn r ⟨before.length, block.length⟩ d.build d'.build where
  nodeCount := h.size
  edgeCount := by rw [edgeCount_build, edgeCount_build, h.size_segments]
  positions := h.positions
  outside e not_has := Ident.index_inj.1 (by rw [h.edges, Block.mirror_of_not_has not_has])
  segments e := by rw [segment?_build, segment?_build, h.getElem?_segments]
  rides := h.ride?_travels
  resolve rule node query known := h.resolve_turned fits single rule query known

end Draft

end Roadside
