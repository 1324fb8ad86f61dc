import Mathlib.Algebra.Ring.Nat
import Roadside.Script

/-!
# The slots of a map

Whatever a script adds and in whatever order, the slots of the map it makes are the ends of the edges, sorted by their
nodes and then by the numbers of the edges.

* **Slots are faithful** (`slotsFaithful_mapOf`): rows start where they should, each row lists the ends at its node and
  nothing else, every end has one slot, and no slot is left empty.
-/

namespace Roadside

variable {K : Type}

/-- The slots of an edge at a node, the one that leads forward before the one that leads backward. -/
def Ends.slotsAt (ends : Ends) (edge : EdgeId) (node : NodeId) : List Slot :=
  (if ends.start = node then [⟨edge, .forward⟩] else []) ++ if ends.finish = node then [⟨edge, .backward⟩] else []

/-- The slots at a node, found by going through all edges in the order of their numbers. -/
def RoadMap.slotsByEdge (map : RoadMap K) (node : NodeId) : List Slot :=
  map.ends.toList.zipIdx.flatMap fun (ends, i) => ends.slotsAt (.ofIndex i) node

/-- The rows of slots hold the ends of the edges and nothing else. -/
structure RoadMap.SlotsFaithful (map : RoadMap K) : Prop where
  /-- There is one start for each node, and the end. -/
  size : map.slots.starts.size = map.nodeCount + 1
  first : map.slots.starts[0]? = some 0
  monotone : ∀ i j start stop : Nat, i ≤ j → map.slots.starts[i]? = some start → map.slots.starts[j]? = some stop →
    start ≤ stop
  last : map.slots.starts[map.nodeCount]? = some (2 * map.edgeCount)
  /-- There are two slots for each edge. -/
  items : map.slots.items.size = 2 * map.edgeCount
  /-- A row lists what one finds at its node by going through all edges. -/
  row : ∀ node : NodeId, node.index < map.nodeCount → map.slots.row? node.index = some (map.slotsByEdge node)
  /-- No slot is left empty. -/
  filled : ∀ slot ∈ map.slots.items, slot.edge ≠ .unset ∧ slot.edge.index < map.edgeCount
  /-- Among all slots, each end of each edge has one. -/
  once : ∀ (edge : EdgeId) (travel : Travel), edge.index < map.edgeCount →
    map.slots.items.toList.count ⟨edge, travel⟩ = 1
  /-- The slots of one edge at one node, no matter what other edges join the same nodes. -/
  edge : ∀ (edge : EdgeId) (ends : Ends) (node : NodeId), map.ends? edge = some ends →
    (map.slotsAt node).filter (·.edge = edge) = ends.slotsAt edge node
  degrees : ((List.range map.nodeCount).map fun i => map.degree (.ofIndex i)).sum = 2 * map.edgeCount

namespace Draft

/-! ## Rows -/

theorem entered_slots (d : Draft K) (node : NodeId) :
    Ragged.entered node.index d.slots = d.build.slotsByEdge node := by
  have segment : ∀ (s : Segment K) (i : Nat),
      Ragged.entered node.index (s.slots i) = s.ends.slotsAt (.ofIndex i) node := by
    intro s i
    simp only [Segment.slots, Ragged.entered_cons, Ragged.entered_nil, Ident.index_inj, List.append_nil, Ends.slotsAt]
  rw [slots, Ragged.entered, List.filterMap_flatMap]
  simp only [RoadMap.slotsByEdge, build, Array.toList_map, List.zipIdx_map, List.flatMap_map]
  exact congrArg (List.flatMap · _) (funext fun si => segment si.1 si.2)

/-- The slots at a node, known or not, are found by going through all edges. -/
theorem slotsAt_eq (d : Draft K) (node : NodeId) : d.build.slotsAt node = d.build.slotsByEdge node := by
  rw [← entered_slots]
  by_cases h : node.index < d.positions.size
  · exact slotsAt_build h
  · have unknown : Ragged.entered node.index d.slots = [] := by
      rw [Ragged.entered, List.filterMap_eq_nil_iff]
      intro entry he
      have := d.slots_lt entry he
      rw [if_neg (by omega)]
    rw [unknown, RoadMap.slotsAt, slots_build, Ragged.row?_ofRows,
      List.getElem?_eq_none (by simpa [Ragged.rowsOf] using h), Option.getD_none]

/-! ## All slots together -/

/-- The two slots of the edge with number `i`. -/
def bothSlots (i : Nat) : List Slot := [⟨.ofIndex i, .forward⟩, ⟨.ofIndex i, .backward⟩]

theorem map_slots (d : Draft K) : d.slots.map (·.2) = (List.range d.segments.size).flatMap bothSlots := by
  have : d.segments.toList.zipIdx.map (·.2) = List.range d.segments.size := by
    rw [List.zipIdx_map_snd, ← List.range_eq_range', Array.length_toList]
  rw [slots, List.map_flatMap, ← this, List.flatMap_map]
  rfl

theorem perm_items (d : Draft K) :
    d.build.slots.items.toList.Perm ((List.range d.segments.size).flatMap bothSlots) := by
  rw [slots_build, Ragged.ofRows, ← map_slots]
  exact Ragged.perm_flatten_rowsOf d.slots_lt

theorem mem_bothSlots {slot : Slot} {i : Nat} : slot ∈ bothSlots i ↔ slot.edge = .ofIndex i := by
  obtain ⟨edge, travel⟩ := slot
  cases travel <;> simp [bothSlots]

section Numbered

variable {m : Nat} (fits : m ≤ UInt32.size)
include fits

theorem mem_flatMap_bothSlots {slot : Slot} :
    slot ∈ (List.range m).flatMap bothSlots ↔ slot.edge.index < m := by
  simp only [List.mem_flatMap, List.mem_range, mem_bothSlots]
  constructor
  · rintro ⟨i, hi, h⟩
    rw [h, Ident.index_ofIndex (Nat.lt_of_lt_of_le hi fits)]
    exact hi
  · intro h
    exact ⟨_, h, (Ident.ofIndex_index _).symm⟩

theorem nodup_flatMap_bothSlots : ((List.range m).flatMap bothSlots).Nodup := by
  refine List.pairwise_flatMap.2 ⟨fun i _ => by simp [bothSlots], ?_⟩
  refine List.Pairwise.imp_of_mem ?_ List.nodup_range
  intro i j hi hj ne x hx y hy same
  simp only [List.mem_range] at hi hj
  rw [mem_bothSlots] at hx hy
  exact ne ((Ident.ofIndex_inj (by omega) (by omega)).1 (hx.symm.trans (same ▸ hy)))

end Numbered

/-! ## The slots of one edge -/

theorem zipIdx_split {α : Type} {l : List α} {i : Nat} {x : α} (h : l[i]? = some x) :
    l.zipIdx = (l.take i).zipIdx ++ (x, i) :: (l.drop (i + 1)).zipIdx (i + 1) := by
  obtain ⟨hi, rfl⟩ := List.getElem?_eq_some_iff.1 h
  have : l = l.take i ++ l[i] :: l.drop (i + 1) := by simp
  rw [congrArg List.zipIdx this, List.zipIdx_append, List.zipIdx_cons, Nat.zero_add,
    List.length_take_of_le (Nat.le_of_lt hi)]

/-- If only the entry with number `i` yields anything, then all entries together yield what it does. -/
theorem flatMap_zipIdx_eq {α β : Type} {l : List α} {i : Nat} {x : α} (h : l[i]? = some x) {f : α × Nat → List β}
    (others : ∀ y j, j < l.length → j ≠ i → f (y, j) = []) : l.zipIdx.flatMap f = f (x, i) := by
  have hi := (List.getElem?_eq_some_iff.1 h).1
  have before : (l.take i).zipIdx.flatMap f = [] := by
    rw [List.flatMap_eq_nil_iff]
    rintro ⟨y, j⟩ hj
    have := List.snd_lt_of_mem_zipIdx hj
    simp only [List.length_take] at this
    exact others y j (by omega) (by omega)
  have after : ((l.drop (i + 1)).zipIdx (i + 1)).flatMap f = [] := by
    rw [List.flatMap_eq_nil_iff]
    rintro ⟨y, j⟩ hj
    have above := List.le_snd_of_mem_zipIdx hj
    have below := List.snd_lt_add_of_mem_zipIdx hj
    simp only [List.length_drop] at above below
    exact others y j (by omega) (by omega)
  rw [zipIdx_split h, List.flatMap_append, List.flatMap_cons, before, after, List.nil_append, List.append_nil]

theorem edge_of_mem_slotsAt {ends : Ends} {edge : EdgeId} {node : NodeId} {slot : Slot}
    (h : slot ∈ ends.slotsAt edge node) : slot.edge = edge := by
  rw [Ends.slotsAt, List.mem_append] at h
  rcases h with h | h <;> split at h <;> simp_all

/-- Of the slots at a node, those of one edge are its own ends there. -/
theorem filter_slotsAt {d : Draft K} (fits : d.segments.size ≤ UInt32.size) {edge : EdgeId} {ends : Ends}
    (h : d.build.ends? edge = some ends) (node : NodeId) :
    (d.build.slotsAt node).filter (·.edge = edge) = ends.slotsAt edge node := by
  have h : d.build.ends.toList[edge.index]? = some ends := by simpa [RoadMap.ends?] using h
  have length : d.build.ends.toList.length = d.segments.size := by simp [build]
  rw [slotsAt_eq, RoadMap.slotsByEdge, List.filter_flatMap, flatMap_zipIdx_eq h]
  · simp only [Ident.ofIndex_index, List.filter_eq_self]
    intro slot hs
    simpa using edge_of_mem_slotsAt hs
  · intro other j hj ne
    simp only [List.filter_eq_nil_iff, decide_eq_true_eq]
    intro slot hs same
    rw [edge_of_mem_slotsAt hs] at same
    rw [length] at hj
    exact ne (by rw [← same, Ident.index_ofIndex (by omega)])

/-! ## All together -/

theorem size_items (d : Draft K) : d.build.slots.items.size = 2 * d.segments.size := by
  have two : (List.range d.segments.size).map (fun i => (bothSlots i).length) = List.replicate d.segments.size 2 := by
    simp [bothSlots, List.map_const']
  rw [← Array.length_toList, d.perm_items.length_eq, List.length_flatMap, two, List.sum_replicate_nat, Nat.mul_comm]

theorem length_flatten_rows (d : Draft K) :
    (Ragged.rowsOf d.positions.size d.slots).flatten.length = 2 * d.segments.size := by
  rw [← size_items, slots_build]
  simp [Ragged.ofRows]

theorem slotsFaithful_build {d : Draft K} (fits : d.build.Fits) : d.build.SlotsFaithful := by
  obtain ⟨nodes, slots, -⟩ := fits
  have rows : (Ragged.rowsOf d.positions.size d.slots).length = d.build.nodeCount := by
    simp [Ragged.rowsOf]
  rw [nodeCount_build] at nodes
  rw [edgeCount_build] at slots
  constructor
  case size => rw [slots_build, Ragged.size_starts_ofRows, rows]
  case first => rw [slots_build, Ragged.getElem?_starts_ofRows_zero]
  case monotone =>
    intro i j start stop le hi hj
    rw [slots_build] at hi hj
    exact Ragged.starts_ofRows_mono le hi hj
  case last => rw [edgeCount_build, ← size_items, slots_build, ← rows, Ragged.getElem?_starts_ofRows_length]
  case items => rw [size_items, edgeCount_build]
  case row =>
    intro node h
    rw [nodeCount_build] at h
    rw [slots_build, Ragged.row?_gathered h, entered_slots]
  case filled =>
    intro slot h
    have below : slot.edge.index < d.segments.size :=
      (mem_flatMap_bothSlots (by omega)).1 (d.perm_items.mem_iff.1 (Array.mem_toList_iff.2 h))
    refine ⟨fun unset => ?_, d.edgeCount_build ▸ below⟩
    rw [unset, show (Ident.unset : EdgeId).index = UInt32.size - 1 from rfl] at below
    omega
  case once =>
    intro edge travel h
    rw [edgeCount_build] at h
    have fits : d.segments.size ≤ UInt32.size := by omega
    rw [d.perm_items.count_eq, (nodup_flatMap_bothSlots fits).count, if_pos ((mem_flatMap_bothSlots fits).2 h)]
  case edge =>
    intro edge ends node h
    exact filter_slotsAt (by omega) h node
  case degrees =>
    have degree : ∀ i ∈ List.range d.positions.size, d.build.degree (.ofIndex i) =
        (Ragged.entered i d.slots).length := by
      intro i hi
      rw [List.mem_range] at hi
      have index : (Ident.ofIndex i : NodeId).index = i := Ident.index_ofIndex (by omega)
      rw [RoadMap.degree, slotsAt_build (by rwa [index]), index]
    rw [nodeCount_build, edgeCount_build, List.map_congr_left degree, ← length_flatten_rows]
    simp [Ragged.rowsOf, List.length_flatten, Function.comp_def]

end Draft

/-- **Slots are faithful**: the slots of a map that a script makes are the ends of its edges, each in the row of its
node, in the order of the edges. -/
theorem slotsFaithful_mapOf (script : List (Step K)) (fits : (mapOf script).Fits) : (mapOf script).SlotsFaithful :=
  Draft.slotsFaithful_build fits

/-- Two parallel edges, a loop between them, an edge that is refused, and a node without edges. -/
def tangle : List (Step Rat) :=
  [.node ⟨0, 0⟩, .node ⟨0, 1⟩, .segment (.straight ⟨0⟩ ⟨1⟩ .both), .segment (.straight ⟨1⟩ ⟨1⟩ .forwardOnly),
    .segment (.straight ⟨0⟩ ⟨2⟩ .both), .segment (.straight ⟨1⟩ ⟨0⟩ .closed), .node ⟨5, 5⟩]

theorem slotsFaithful_mapOf_tangle : (mapOf tangle).Fits ∧ (mapOf tangle).SlotsFaithful :=
  have fits : (mapOf tangle).Fits := by decide +kernel
  ⟨fits, slotsFaithful_mapOf tangle fits⟩

example : (mapOf tangle).slotsAt ⟨1⟩ =
    [⟨⟨0⟩, .backward⟩, ⟨⟨1⟩, .forward⟩, ⟨⟨1⟩, .backward⟩, ⟨⟨2⟩, .forward⟩] := by decide +kernel

end Roadside
