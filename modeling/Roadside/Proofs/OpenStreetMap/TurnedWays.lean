import Mathlib.Data.List.Perm.Basic
import Roadside.Proofs.OpenStreetMap.Joints
import Roadside.Proofs.OpenStreetMap.Parts
import Roadside.Proofs.OpenStreetMap.TurnedLines
import Roadside.Proofs.TurnedBlock

/-!
# One-way roads that are drawn against their traffic

A way may be drawn against the traffic that it is for, and a tag says so. It might as well be drawn the way the traffic
goes, with a tag that says that.

* **The order of a way's nodes does not matter** (`roadMap_turned`): if such a way has its nodes listed the other way
  round and its tag set right, then the map of the extract has the same roads. The edges of that way are turned around
  and numbered in reverse order, all other edges keep their numbers, and nodes are numbered anew.
-/

namespace Roadside.OpenStreetMap

/-! ## Ways turned around -/

namespace Tags

/-- The tags with another first value of a key that they have. -/
def setFirst (key value : String) : Tags → Tags
  | [] => []
  | (k, v) :: tags => if k = key then (k, value) :: tags else (k, v) :: setFirst key value tags

theorem value?_setFirst_self {key old : String} (value : String) {tags : Tags} (h : value? tags key = some old) :
    value? (setFirst key value tags) key = some value := by
  induction tags with
  | nil => cases h
  | cons tag tags ih =>
    obtain ⟨k, v⟩ := tag
    rw [value?, List.lookup_cons] at h
    rw [setFirst, value?]
    by_cases same : k = key
    · rw [if_pos same, List.lookup_cons, same, beq_self_eq_true]
    · have other : (key == k) = false := beq_false_of_ne (Ne.symm same)
      rw [other] at h
      rw [if_neg same, List.lookup_cons, other]
      exact ih h

theorem value?_setFirst_ne {key other : String} (ne : other ≠ key) (value : String) (tags : Tags) :
    value? (setFirst key value tags) other = value? tags other := by
  induction tags with
  | nil => rfl
  | cons tag tags ih =>
    obtain ⟨k, v⟩ := tag
    rw [value?] at ih
    rw [setFirst, value?, value?]
    by_cases same : k = key
    · have unlike : (other == k) = false := beq_false_of_ne (same ▸ ne)
      rw [if_pos same, List.lookup_cons, List.lookup_cons, unlike]
    · rw [if_neg same, List.lookup_cons, List.lookup_cons, ih]
      rfl

end Tags

/-- The way with its nodes listed the other way round, for traffic in that direction. -/
def Way.turned (w : Way) : Way := { w with refs := w.refs.reverse, tags := w.tags.setFirst "oneway" "yes" }

/-- The way is for traffic that goes against the order of its nodes. -/
def Way.IsAgainst (w : Way) : Prop :=
  Tags.value? w.tags "oneway" = some "-1" ∨ Tags.value? w.tags "oneway" = some "reverse"

section Way

variable {w : Way}

theorem highway?_turned (w : Way) : Tags.highway? w.turned.tags = Tags.highway? w.tags := by
  rw [Tags.highway?, Way.turned, Tags.value?_setFirst_ne (by decide), Tags.highway?]

theorem Way.IsAgainst.oneWayAccess? (h : w.IsAgainst) :
    (Tags.value? w.tags "oneway").bind Tags.oneWayAccess? = some .backwardOnly := by
  rcases h with h | h <;> rw [h] <;> rfl

theorem Way.IsAgainst.oneWayAccess?_turned (h : w.IsAgainst) :
    (Tags.value? w.turned.tags "oneway").bind Tags.oneWayAccess? = some .forwardOnly := by
  rcases h with h | h <;> rw [Way.turned, Tags.value?_setFirst_self "yes" h] <;> rfl

/-- Turned around, the way is open in the other direction, if it is open. -/
theorem Way.IsAgainst.access_turned (h : w.IsAgainst) (highway : String) :
    Tags.access w.turned.tags highway = (Tags.access w.tags highway).reverse := by
  have barred : Tags.value? w.turned.tags "access" = Tags.value? w.tags "access" :=
    Tags.value?_setFirst_ne (by decide) "yes" w.tags
  rw [Tags.access, Tags.access, barred, h.oneWayAccess?, h.oneWayAccess?_turned]
  split <;> rfl

theorem Way.IsAgainst.access_ne_both (h : w.IsAgainst) (highway : String) : Tags.access w.tags highway ≠ .both := by
  rw [Tags.access, h.oneWayAccess?, Option.getD_some]
  split <;> decide

end Way

/-! ## New numbers for nodes in another order -/

section Move

variable {names names' : List Int}

/-- Nodes are numbered by the places of their names in the first list; the number that such a node has by the second. -/
def moveNode (names names' : List Int) (node : NodeId) : NodeId :=
  match names[node.index]? with
  | some name => .ofIndex (names'.idxOf name)
  | none => node

theorem moveNode_of_mem (fits : names.length ≤ UInt32.size) {name : Int} (mem : name ∈ names) :
    moveNode names names' (.ofIndex (names.idxOf name)) = .ofIndex (names'.idxOf name) := by
  have inside := List.idxOf_lt_length_of_mem mem
  rw [moveNode, Ident.index_ofIndex (by omega), List.getElem?_idxOf mem]

theorem moveNode_of_le {node : NodeId} (h : names.length ≤ node.index) : moveNode names names' node = node := by
  rw [moveNode, List.getElem?_eq_none h]

/-- A number stands for the place of a name, or it is the number of no node. -/
theorem exists_name_or_le (once : names.Nodup) (node : NodeId) :
    (∃ name ∈ names, node = .ofIndex (names.idxOf name)) ∨ names.length ≤ node.index := by
  by_cases h : node.index < names.length
  · refine .inl ⟨_, List.getElem_mem h, ?_⟩
    rw [once.idxOf_getElem, Ident.ofIndex_index]
  · exact .inr (by omega)

variable (same : names.Perm names') (once : names.Nodup) (fits : names.length ≤ UInt32.size)
include same once fits

theorem moveNode_moveNode (node : NodeId) : moveNode names' names (moveNode names names' node) = node := by
  have length := same.length_eq
  rcases exists_name_or_le once node with ⟨name, mem, rfl⟩ | outside
  · rw [moveNode_of_mem fits mem, moveNode_of_mem (by omega) (same.mem_iff.1 mem)]
  · rw [moveNode_of_le outside, moveNode_of_le (by omega)]

/-- The nodes, with new numbers by the second list. -/
def moveNodes : Equiv.Perm NodeId where
  toFun := moveNode names names'
  invFun := moveNode names' names
  left_inv := moveNode_moveNode same once fits
  right_inv := moveNode_moveNode same.symm (same.nodup_iff.1 once) (same.length_eq ▸ fits)

end Move

/-! ## Lines turned around -/

theorem knownRefs_reverse (elements : List Element) (refs : List Int) :
    knownRefs elements refs.reverse = (knownRefs elements refs).reverse := List.filter_reverse

theorem stretchesOf_turned (elements : List Element) (w : Way) (highway : String) :
    stretchesOf elements (w.turned, highway) = ((stretchesOf elements (w, highway)).map Stretch.reverse).reverse := by
  have vertices : (courseOf elements (w.turned, highway)).vertices =
      (courseOf elements (w, highway)).vertices.reverse := List.filterMap_reverse
  rw [stretchesOf, vertices, stretches_reverse, stretchesOf]

theorem exists_end_turned {elements : List Element} {v : Way × String} {ref : Int} :
    (∃ s ∈ stretchesOf elements (v.1.turned, v.2), s.start.ref = ref ∨ s.finish.ref = ref) ↔
      ∃ s ∈ stretchesOf elements v, s.start.ref = ref ∨ s.finish.ref = ref := by
  simp only [stretchesOf_turned, List.mem_reverse, List.mem_map, exists_exists_and_eq_and]
  exact exists_congr fun s => and_congr_right fun _ => or_comm

/-! ## Edges under new numbers -/

section Segments

variable {r : Renumbering} {order order' : List Vertex} {s : Stretch}
  (start : r.nodes (nodeOf order s.start.ref) = nodeOf order' s.start.ref)
  (finish : r.nodes (nodeOf order s.finish.ref) = nodeOf order' s.finish.ref)
include start finish

theorem segment_renumber (access : Access) : s.segment order' access = (s.segment order access).renumber r := by
  rw [Stretch.segment, ← start, ← finish]
  rfl

theorem segment_reverse_renumber (access : Access) :
    s.reverse.segment order' access.reverse = (s.segment order access).reverse.renumber r := by
  have bends : s.reverse.bends.map (·.position) = (s.bends.map (·.position)).reverse := List.map_reverse
  rw [Stretch.segment, bends, Stretch.reverse, ← start, ← finish]
  rfl

end Segments

/-! ## Extracts that differ in one way -/

/-- In the second extract, a road that is drawn against its traffic is turned around. -/
structure WayTurned (before after : List Element) (w : Way) (highway : String) (elements elements' : List Element) :
    Prop where
  here : elements = before ++ ([.way w] ++ after)
  there : elements' = before ++ ([.way w.turned] ++ after)
  drivable : Tags.highway? w.tags = some highway
  against : w.IsAgainst

namespace WayTurned

variable {before after elements elements' : List Element} {w : Way} {highway : String}
  (h : WayTurned before after w highway elements elements')
include h

theorem drivable?_way : Element.drivable? (.way w) = some (w, highway) := by
  rw [Element.drivable?, h.drivable, Option.map_some]

theorem drivable?_turned : Element.drivable? (.way w.turned) = some (w.turned, highway) := by
  rw [Element.drivable?, highway?_turned, h.drivable, Option.map_some]

theorem positions_eq : positions elements' = positions elements := by
  rw [h.here, h.there, positions_way, positions_way]

theorem before_subset : before ⊆ elements := by
  rw [h.here]
  exact List.subset_append_left ..

theorem way_subset : [.way w] ⊆ elements := by
  rw [h.here]
  exact List.subset_append_of_subset_right _ (List.subset_append_left ..)

theorem after_subset : after ⊆ elements := by
  rw [h.here]
  exact List.subset_append_of_subset_right _ (List.subset_append_right ..)

theorem blocksIn_here : blocksIn elements elements =
    blocksIn elements before ++ (blocksIn elements [.way w] ++ blocksIn elements after) := by
  rw [← blocksIn_append, ← blocksIn_append, ← h.here]

theorem blocksIn_there : blocksIn elements' elements' =
    blocksIn elements' before ++ (blocksIn elements' [.way w.turned] ++ blocksIn elements' after) := by
  rw [← blocksIn_append, ← blocksIn_append, ← h.there]

/-- The way is kept in both extracts or in none. -/
theorem keptIn_turned :
    keptIn elements [.way w.turned] = (keptIn elements [.way w]).map fun (w, highway) => (w.turned, highway) := by
  have length : (knownRefs elements w.turned.refs).length = (knownRefs elements w.refs).length := by
    rw [Way.turned, knownRefs_reverse, List.length_reverse]
  by_cases long : 2 ≤ (knownRefs elements w.refs).length <;>
    simp [keptIn, h.drivable?_way, h.drivable?_turned, length, long]

/-- The way is kept, or it is not. -/
theorem keptIn_way : keptIn elements [.way w] = [(w, highway)] ∨ keptIn elements [.way w] = [] := by
  by_cases long : 2 ≤ (knownRefs elements w.refs).length
  · exact .inl (by simp [keptIn, h.drivable?_way, long])
  · exact .inr (by simp [keptIn, h.drivable?_way, long])

/-- The ways for cars name the same nodes equally often. -/
theorem perm_drivableRefs : (drivableRefs elements').Perm (drivableRefs elements) := by
  have parts : refsIn elements (before ++ ([.way w] ++ after)) =
      refsIn elements before ++ (knownRefs elements w.refs ++ refsIn elements after) := by
    rw [refsIn_append, refsIn_append, refsIn_way elements h.drivable?_way]
  have parts' : refsIn elements (before ++ ([.way w.turned] ++ after)) =
      refsIn elements before ++ ((knownRefs elements w.refs).reverse ++ refsIn elements after) := by
    rw [refsIn_append, refsIn_append, refsIn_way elements h.drivable?_turned, ← knownRefs_reverse]
    rfl
  rw [← h.here] at parts
  rw [← h.there] at parts'
  rw [drivableRefs_eq, drivableRefs_eq, refsIn_congr h.positions_eq, parts, parts']
  exact ((List.reverse_perm _).append_right _).append_left _

theorem isCrossing_eq : isCrossing elements' = isCrossing elements := by
  funext v
  rw [Bool.eq_iff_iff, isCrossing_iff, isCrossing_iff, h.perm_drivableRefs.count_eq]

/-! ### Stretches -/

theorem stretchesOf_eq : stretchesOf elements' = stretchesOf elements := by
  funext v
  rw [stretchesOf, h.isCrossing_eq, courseOf_congr h.positions_eq, stretchesOf]

/-! ### Nodes -/

/-- The same names have nodes. -/
theorem perm_orderOf : ((orderOf elements).map (·.ref)).Perm ((orderOf elements').map (·.ref)) := by
  have kept : keptWays elements = keptIn elements before ++ (keptIn elements [.way w] ++ keptIn elements after) := by
    rw [← keptIn_append, ← keptIn_append, ← h.here]
    rfl
  have kept' : keptWays elements' =
      keptIn elements before ++ (keptIn elements [.way w.turned] ++ keptIn elements after) := by
    rw [← keptIn_append, ← keptIn_append, ← h.there, ← keptIn_congr h.positions_eq]
    rfl
  refine (List.perm_ext_iff_of_nodup (nodup_orderOf elements) (nodup_orderOf elements')).2 fun ref => ?_
  rw [mem_refs_orderOf_iff_exists_stretch, mem_refs_orderOf_iff_exists_stretch, kept, kept', h.stretchesOf_eq,
    h.keptIn_turned]
  simp only [List.mem_append, or_and_right, exists_or, List.mem_map, exists_exists_and_eq_and, exists_end_turned]

/-- The nodes of the first extract, with the numbers that they have in the second one. -/
def nodes (fits : (orderOf elements).length ≤ UInt32.size) : Equiv.Perm NodeId :=
  moveNodes h.perm_orderOf (nodup_orderOf elements) (by rwa [List.length_map])

theorem nodes_nodeOf (fits : (orderOf elements).length ≤ UInt32.size) {ref : Int}
    (mem : ref ∈ (orderOf elements).map (·.ref)) :
    h.nodes fits (nodeOf (orderOf elements) ref) = nodeOf (orderOf elements') ref :=
  moveNode_of_mem (by rwa [List.length_map]) mem

/-- The nodes lie where they did. -/
theorem position?_nodes (fits : (orderOf elements).length ≤ UInt32.size) {plot plot' : Plot}
    (follows : plot.Follows (orderOf elements)) (follows' : plot'.Follows (orderOf elements')) (node : NodeId) :
    plot'.draft.position? (h.nodes fits node) = plot.draft.position? node := by
  have length : (orderOf elements).length = (orderOf elements').length := by
    simpa using h.perm_orderOf.length_eq
  rcases exists_name_or_le (nodup_orderOf elements) node with ⟨ref, mem, rfl⟩ | outside
  · have place : plot.draft.position? (nodeOf (orderOf elements) ref) = lastPosition? elements ref :=
      follows.position?_nodeOf fits (fun _ => lastPosition?_of_mem_orderOf) mem
    have place' : plot'.draft.position? (nodeOf (orderOf elements') ref) = lastPosition? elements' ref :=
      follows'.position?_nodeOf (by omega) (fun _ => lastPosition?_of_mem_orderOf) (h.perm_orderOf.mem_iff.1 mem)
    change plot'.draft.position? (h.nodes fits (nodeOf (orderOf elements) ref)) =
      plot.draft.position? (nodeOf (orderOf elements) ref)
    rw [h.nodes_nodeOf fits mem, place, place', lastPosition?_congr h.positions_eq]
  · have unmoved : h.nodes fits node = node := moveNode_of_le outside
    rw [List.length_map] at outside
    have size := follows.size_positions
    have size' := follows'.size_positions
    have gone : plot.draft.position? node = none := Array.getElem?_eq_none (by omega)
    have gone' : plot'.draft.position? node = none := Array.getElem?_eq_none (by omega)
    rw [unmoved, gone, gone']

/-! ### Edges -/

section Edges

variable {r : Renumbering} (moves : ∀ ref ∈ (orderOf elements).map (·.ref),
  r.nodes (nodeOf (orderOf elements) ref) = nodeOf (orderOf elements') ref)
include moves

/-- The edges of another way have the new numbers of their ends. -/
theorem blockOf_renumber {v : Way × String} (kept : v ∈ keptWays elements) :
    blockOf elements' v = (blockOf elements v).map (Segment.renumber r) := by
  rw [blockOf_eq, blockOf_eq, h.stretchesOf_eq, courseOf_congr h.positions_eq, List.map_map]
  refine List.map_congr_left fun s hs => ?_
  obtain ⟨start, finish⟩ := ends_mem_orderOf kept hs
  exact segment_renumber (moves _ start) (moves _ finish) _

/-- The edges of the way are turned around as well, and in reverse order. -/
theorem blockOf_turned (kept : (w, highway) ∈ keptWays elements) : blockOf elements' (w.turned, highway) =
      ((blockOf elements (w, highway)).map Segment.reverse).reverse.map (Segment.renumber r) := by
  have access : (courseOf elements (w.turned, highway)).road.access =
      (courseOf elements (w, highway)).road.access.reverse := h.against.access_turned highway
  rw [blockOf_eq, blockOf_eq, h.stretchesOf_eq, courseOf_congr h.positions_eq, stretchesOf_turned, access,
    List.map_reverse, List.map_reverse, List.map_map, List.map_map, List.map_map]
  refine congrArg List.reverse (List.map_congr_left fun s hs => ?_)
  obtain ⟨start, finish⟩ := ends_mem_orderOf kept hs
  exact segment_reverse_renumber (moves _ start) (moves _ finish) _

/-- The edges of the other ways have the new numbers of their ends. -/
theorem blocksIn_renumber {part : List Element}
    (sub : part ⊆ elements) :
    (blocksIn elements' part).flatten = (blocksIn elements part).flatten.map (Segment.renumber r) := by
  rw [flatten_blocksIn, flatten_blocksIn, keptIn_congr h.positions_eq, List.map_flatMap]
  exact List.flatMap_congr fun v mem => h.blockOf_renumber moves (keptIn_subset sub mem)

theorem blocksIn_turned : (blocksIn elements' [.way w.turned]).flatten =
      ((blocksIn elements [.way w]).flatten.map Segment.reverse).reverse.map (Segment.renumber r) := by
  rw [flatten_blocksIn, flatten_blocksIn, keptIn_congr h.positions_eq, h.keptIn_turned]
  rcases h.keptIn_way with kept | dropped
  · have mem : (w, highway) ∈ keptWays elements := by
      refine keptIn_subset h.way_subset ?_
      rw [kept]
      exact List.mem_cons_self
    rw [kept, List.map_singleton, List.flatMap_singleton, List.flatMap_singleton]
    exact h.blockOf_turned moves mem
  · rw [dropped]
    rfl

end Edges

/-- The new numbers of nodes and edges. -/
def renumbering
    (nodes : (orderOf elements).length ≤ UInt32.size)
    (edges : (blocksIn elements before).flatten.length + (blocksIn elements [.way w]).flatten.length ≤ UInt32.size) :
    Renumbering where
  nodes := h.nodes nodes
  edges := Block.turn ⟨(blocksIn elements before).flatten.length, (blocksIn elements [.way w]).flatten.length⟩ edges

/-- The second map has the edges of the first one, but those of the way are turned around and in reverse order. -/
theorem blockTurned {plot plot' : Plot}
    (follows : plot.Follows (orderOf elements)) (follows' : plot'.Follows (orderOf elements'))
    (segments : plot.draft.segments.toList = (blocksIn elements elements).flatten)
    (segments' : plot'.draft.segments.toList = (blocksIn elements' elements').flatten)
    (nodes : (orderOf elements).length ≤ UInt32.size)
    (edges : (blocksIn elements before).flatten.length + (blocksIn elements [.way w]).flatten.length ≤ UInt32.size) :
    Draft.BlockTurned (h.renumbering nodes edges) (blocksIn elements before).flatten
      (blocksIn elements [.way w]).flatten (blocksIn elements after).flatten plot.draft plot'.draft := by
  have moves : ∀ ref ∈ (orderOf elements).map (·.ref),
      (h.renumbering nodes edges).nodes (nodeOf (orderOf elements) ref) = nodeOf (orderOf elements') ref :=
    fun _ mem => h.nodes_nodeOf nodes mem
  constructor
  case segments => rw [segments, h.blocksIn_here, List.flatten_append, List.flatten_append]
  case segments' =>
    rw [segments', h.blocksIn_there, List.flatten_append, List.flatten_append, h.blocksIn_turned moves,
      h.blocksIn_renumber moves h.before_subset, h.blocksIn_renumber moves h.after_subset, List.map_append,
      List.map_append]
  case size =>
    rw [follows.size_positions, follows'.size_positions]
    simpa using h.perm_orderOf.length_eq.symm
  case positions => exact h.position?_nodes nodes follows follows'
  case edges => exact fun e => Block.index_turn edges e

/-- No edge of the way is open both ways. -/
theorem access_ne_both {s : Segment Float}
    (mem : s ∈ (blocksIn elements [.way w]).flatten) : s.access ≠ .both := by
  rw [flatten_blocksIn, List.mem_flatMap] at mem
  obtain ⟨v, kept, hs⟩ := mem
  obtain ⟨t, -, rfl⟩ := List.mem_map.1 hs
  obtain rfl : v = (w, highway) := by
    rcases h.keptIn_way with alone | dropped
    · rw [alone] at kept
      exact List.mem_singleton.1 kept
    · rw [dropped] at kept
      cases kept
  exact h.against.access_ne_both highway

end WayTurned

/-! ## The map of an extract -/

/-- Of an extract's two maps, the second one has a way turned around: the edges of the first one divide into those of
the ways before it, its own and those of the ways after it, and the second map has the same roads, with the edges of
the way stored the other way round. -/
structure RedrawsWay (before : List Element) (w : Way) (after : List Element) (map map' : RoadMap Float)
    (r : Renumbering) (fronts blocks backs : List (List (Segment Float))) : Prop where
  segments : map.segments = (fronts.flatten ++ (blocks.flatten ++ backs.flatten)).map some
  drawsFronts :
    List.Forall₂ (DrawsWay (before ++ .way w :: after) map) (keptIn (before ++ .way w :: after) before) fronts
  drawsWay :
    List.Forall₂ (DrawsWay (before ++ .way w :: after) map) (keptIn (before ++ .way w :: after) [.way w]) blocks
  drawsBacks :
    List.Forall₂ (DrawsWay (before ++ .way w :: after) map) (keptIn (before ++ .way w :: after) after) backs
  redrawn : Redrawn r ⟨fronts.flatten.length, blocks.flatten.length⟩ map map'

/-- **The order of a way's nodes does not matter**: if a road for cars that is drawn against its traffic is turned
around, and its tag with it, then the map of the extract has the same roads. -/
theorem roadMap_turned (before : List Element) {w : Way} {highway : String} (after : List Element)
    (drivable : Tags.highway? w.tags = some highway) (against : w.IsAgainst) :
    ∃ map notices map' notices', roadMap (before ++ .way w :: after) = .ok (map, notices) ∧
      roadMap (before ++ .way w.turned :: after) = .ok (map', notices') ∧
      (map.Fits → ∃ r fronts blocks backs, RedrawsWay before w after map map' r fronts blocks backs) := by
  have h : WayTurned before after w highway (before ++ .way w :: after) (before ++ .way w.turned :: after) :=
    ⟨rfl, rfl, drivable, against⟩
  obtain ⟨plot, notices, made, follows, segments⟩ := roadMap_eq (before ++ .way w :: after)
  obtain ⟨plot', notices', made', follows', segments'⟩ := roadMap_eq (before ++ .way w.turned :: after)
  refine ⟨_, notices, _, notices', made, made', fun fits => ?_⟩
  have numbered := Draft.size_segments_le fits
  have nodes : (orderOf (before ++ .way w :: after)).length ≤ UInt32.size := by
    have := fits.nodes
    rw [Draft.nodeCount_build, follows.size_positions] at this
    omega
  have drawn := segments_eq segments
  have split := drawn
  rw [h.blocksIn_here, List.flatten_append, List.flatten_append] at split
  have length := congrArg List.length split
  rw [Array.length_toList, List.length_append, List.length_append] at length
  exact ⟨h.renumbering nodes (by omega), _, _, _, {
    segments := by rw [Draft.segments_build numbered, split]
    drawsFronts := follows.drawsWays nodes h.before_subset
    drawsWay := follows.drawsWays nodes h.way_subset
    drawsBacks := follows.drawsWays nodes h.after_subset
    redrawn := Draft.redrawn_build (h.blockTurned follows follows' drawn (segments_eq segments') nodes _) numbered
      fun _ mem => h.access_ne_both mem }⟩

/-- The nodes of a street and of an alley, and the street. -/
def street : List Element :=
  [.node 1 ⟨0, 0⟩, .node 2 ⟨0, 10000⟩, .node 3 ⟨0, 20000⟩, .node 4 ⟨-10000, 10000⟩, .node 5 ⟨10000, 10000⟩,
    .node 6 ⟨10000, 20000⟩, .way ⟨30, [1, 2, 3], [("highway", "residential")]⟩]

/-- The alley crosses the street and comes back to it, drawn against its traffic. -/
def alley : Way := ⟨31, [4, 2, 5, 6, 3], [("highway", "service"), ("oneway", "-1"), ("oneway", "no")]⟩

theorem roadMap_turned_alley : Tags.highway? alley.tags = some "service" ∧ alley.IsAgainst ∧
    ∃ map notices map' notices', roadMap (street ++ [.way alley]) = .ok (map, notices) ∧
      roadMap (street ++ [.way alley.turned]) = .ok (map', notices') ∧ map.Fits ∧
      ∃ r fronts blocks backs, RedrawsWay street alley [] map map' r fronts blocks backs := by
  have drivable : Tags.highway? alley.tags = some "service" := by decide +kernel
  have against : alley.IsAgainst := .inl (by decide +kernel)
  obtain ⟨map, notices, map', notices', made, made', redrawn⟩ := roadMap_turned street [] drivable against
  have fits : map.Fits := fits_of_roadMap made (by decide +kernel)
  exact ⟨drivable, against, map, notices, map', notices', made, made', fits, redrawn fits⟩

end Roadside.OpenStreetMap
