import Roadside.Proofs.Search
import Roadside.Proofs.Slots

/-!
# Nothing is read out of range

A map is a handful of flat arrays that refer to one another: nodes and edges have their rows by the places where these
start, slots name edges, and edges name nodes. Here all of that is read by its place and without a default: what is not
where it should be has no result (`readSlots`, `readBends`, `readIncidences`, `reader`).

* **What is referred to is there** (`RoadMap.Linked`): scripts make linked maps (`linked_mapOf`), and other access to the
  edges leaves a map linked (`Linked.setAll?`).
* **Reading a linked map never fails**: it has the result of looking up, row by row (`Linked.readSlots_eq`), edge by edge
  (`Linked.readIncidences_eq`), and for whole resolutions (`Linked.resolve_reader`).
* **No map is read out of range** (`mapOf_readsInRange`), whatever is asked for. Only the ends and the bends of an
  unknown edge cannot be had.
-/

namespace Roadside

/-! ## Rows -/

namespace Ragged

variable {α : Type} {r : Ragged α} {n : Nat}

/-- The items from one place up to another, if they are all there. -/
def slice? (items : Array α) (start stop : Nat) : Option (List α) :=
  if start ≤ stop ∧ stop ≤ items.size then some (items.extract start stop).toList else none

/-- There are `n` rows, which lie one behind the other among the items. -/
structure Packed (r : Ragged α) (n : Nat) : Prop where
  size : r.starts.size = n + 1
  ordered : ∀ i start stop : Nat, r.starts[i]? = some start → r.starts[i + 1]? = some stop → start ≤ stop
  inside : ∀ i stop : Nat, r.starts[i]? = some stop → stop ≤ r.items.size

theorem slice?_eq {items : Array α} {start stop : Nat} (ordered : start ≤ stop) (inside : stop ≤ items.size) :
    slice? items start stop = some (items.extract start stop).toList := if_pos ⟨ordered, inside⟩

/-- What lies at the places from one to another. -/
theorem map_getElem?_range' {items : Array α} {start stop : Nat} (inside : stop ≤ items.size) :
    (List.range' start (stop - start)).map (items[·]?) = (items.extract start stop).toList.map some := by
  apply List.ext_getElem
  · rw [List.length_map, List.length_range', List.length_map, Array.length_toList, Array.size_extract,
      Nat.min_eq_left inside]
  · intro k hk hk'
    have below : start + k < items.size := by
      simp only [List.length_map, List.length_range'] at hk
      omega
    simp [Array.getElem?_eq_getElem below]

theorem packed_ofRows (rows : List (List α)) : (ofRows rows).Packed rows.length := by
  constructor
  case size => exact size_starts_ofRows rows
  case ordered =>
    intro i start stop
    exact starts_ofRows_mono (Nat.le_succ i)
  case inside =>
    intro i stop h
    have below : i < (ofRows rows).starts.size := (Array.getElem?_eq_some_iff.1 h).1
    rw [size_starts_ofRows] at below
    exact starts_ofRows_mono (Nat.le_of_lt_succ below) h (getElem?_starts_ofRows_length rows)

namespace Packed

/-- A row of a known number has a start and an end. -/
theorem exists_starts (h : r.Packed n) {i : Nat} (hi : i < n) :
    ∃ start stop, r.starts[i]? = some start ∧ r.starts[i + 1]? = some stop := by
  have size := h.size
  exact ⟨_, _, Array.getElem?_eq_getElem (by omega), Array.getElem?_eq_getElem (by omega)⟩

theorem getElem?_starts_succ_eq_none (h : r.Packed n) {i : Nat} (hi : n ≤ i) : r.starts[i + 1]? = none := by
  have size := h.size
  exact Array.getElem?_eq_none (by omega)

theorem row?_eq_none_iff (h : r.Packed n) {i : Nat} : r.row? i = none ↔ n ≤ i := by
  constructor
  · intro none
    by_contra below
    obtain ⟨start, stop, hs, ht⟩ := h.exists_starts (Nat.lt_of_not_le below)
    rw [row?, hs, ht] at none
    cases none
  · intro above
    rw [row?, h.getElem?_starts_succ_eq_none above]
    split <;> simp_all

/-- What lies between the start of a row and its end is the row. -/
theorem slice?_eq_row? (h : r.Packed n) {i start stop : Nat} (hs : r.starts[i]? = some start)
    (ht : r.starts[i + 1]? = some stop) : slice? r.items start stop = r.row? i := by
  rw [slice?_eq (h.ordered i start stop hs ht) (h.inside (i + 1) stop ht), row?, hs, ht]

end Packed

end Ragged

variable {K : Type}

/-! ## Reading by places -/

namespace RoadMap

/-- From where to where the slots of a node lie. An unknown node has an empty row at the front. -/
def span (map : RoadMap K) (node : NodeId) : Nat × Nat :=
  match map.slots.starts[node.index]?, map.slots.starts[node.index + 1]? with
  | some start, some stop => (start, stop)
  | _, _ => (0, 0)

def readSlots (map : RoadMap K) (node : NodeId) : Option (List Slot) :=
  Ragged.slice? map.slots.items (map.span node).1 (map.span node).2

/-- The number of slots, without a look at them. -/
def readDegree (map : RoadMap K) (node : NodeId) : Nat := (map.span node).2 - (map.span node).1

def readBends (map : RoadMap K) (edge : EdgeId) : Option (List (Point K)) := do
  let start ← map.bends.starts[edge.index]?
  let stop ← map.bends.starts[edge.index + 1]?
  Ragged.slice? map.bends.items start stop

/-- The first point of an edge's course. The node it leads to is read in any case. -/
def readAnchor (map : RoadMap K) (edge : EdgeId) (travel : Travel) : Option (Point K) := do
  let bends ← map.readBends edge
  let ends ← map.ends? edge
  let far ← map.position? (ends.target travel)
  let first := match travel with
    | .forward => bends.head?
    | .backward => bends.getLast?
  return first.getD far

/-- What the slot at a place says about its edge. -/
def readIncidence (map : RoadMap K) (place : Nat) : Option (Incidence K) := do
  let slot ← map.slots.items[place]?
  let ends ← map.ends? slot.edge
  let anchor ← map.readAnchor slot.edge slot.outward
  return ⟨slot.edge, ends.target slot.outward, slot.outward, anchor⟩

/-- The edges at a node, place by place. -/
def readIncidences (map : RoadMap K) (node : NodeId) : Option (List (Incidence K)) :=
  (List.range' (map.span node).1 (map.readDegree node)).mapM map.readIncidence

/-- The first edge by which one may drive from a node straight to another. All edges at the first node are read. -/
def readEdge (map : RoadMap K) (start finish : NodeId) : Option (Option EdgeId) := do
  let listed ← map.readIncidences start
  return (listed.find? fun i => i.far = finish && map.allows i.edge i.outward).map (·.edge)

/-- The map as one that is asked and that reads by places. -/
def reader (map : RoadMap K) (allows : Openness) : Host Option K where
  position? node := some (map.position? node)
  incidences := map.readIncidences
  allows edge travel := some (allows edge travel)
  note _ := some ()

/-! ## Linked maps -/

/-- What the arrays of a map refer to is there. -/
structure Linked (map : RoadMap K) : Prop where
  slots : map.slots.Packed map.nodeCount
  bends : map.bends.Packed map.edgeCount
  edges : ∀ slot ∈ map.slots.items, slot.edge.index < map.edgeCount
  nodes : ∀ ends ∈ map.ends, ∀ t, (ends.target t).index < map.nodeCount
  access : map.access.size = map.edgeCount

end RoadMap

theorem Draft.linked_build (d : Draft K) : d.build.Linked := by
  constructor
  case slots =>
    have rows : (Ragged.rowsOf d.positions.size d.slots).length = d.build.nodeCount := by simp [Ragged.rowsOf]
    rw [slots_build, ← rows]
    exact Ragged.packed_ofRows _
  case bends =>
    have rows : (d.segments.toList.map (·.bends)).length = d.build.edgeCount := by simp
    rw [← rows]
    exact Ragged.packed_ofRows _
  case edges =>
    intro slot h
    have listed : slot ∈ (List.range d.segments.size).flatMap bothSlots :=
      d.perm_items.mem_iff.1 (Array.mem_toList_iff.2 h)
    obtain ⟨i, hi, hs⟩ := List.mem_flatMap.1 listed
    rw [mem_bothSlots.1 hs, edgeCount_build]
    -- a number that 32 bits do not hold wraps around, which makes it smaller
    exact Nat.lt_of_le_of_lt (Ident.index_ofIndex_le i) (List.mem_range.1 hi)
  case nodes =>
    intro ends h t
    obtain ⟨s, hs, rfl⟩ := Array.mem_map.1 h
    have lt := d.ends_lt s hs
    cases t with
    | forward => exact lt.2
    | backward => exact lt.1
  case access => simp [build, RoadMap.edgeCount]

theorem linked_mapOf (script : List (Step K)) : (mapOf script).Linked := Draft.linked_build _

namespace RoadMap

variable {map map' : RoadMap K}

theorem span_eq {node : NodeId} {start stop : Nat} (hs : map.slots.starts[node.index]? = some start)
    (ht : map.slots.starts[node.index + 1]? = some stop) : map.span node = (start, stop) := by
  rw [span, hs, ht]

theorem ends?_eq_none_iff (edge : EdgeId) : map.ends? edge = none ↔ map.edgeCount ≤ edge.index :=
  Array.getElem?_eq_none_iff

theorem forM_note_reader (map : RoadMap K) (allows : Openness) (events : List (Event K)) :
    events.forM (map.reader allows).note = some () := by
  induction events with
  | nil => rfl
  | cons event events ih => exact ih

namespace Linked

/-- Other access to one edge leaves the map linked. -/
theorem setAccess? (linked : map.Linked) {edge : EdgeId} {access : Access}
    (h : map.setAccess? edge access = some map') : map'.Linked := by
  unfold RoadMap.setAccess? at h
  split at h
  case isTrue inside =>
    cases h
    exact ⟨linked.slots, linked.bends, linked.edges, linked.nodes, (Array.size_set inside).trans linked.access⟩
  case isFalse => cases h

theorem setAll? (linked : map.Linked) {changes : List (EdgeId × Access)} (h : map.setAll? changes = some map') :
    map'.Linked := by
  induction changes generalizing map with
  | nil =>
    cases h
    exact linked
  | cons change changes ih =>
    rw [RoadMap.setAll?, List.foldlM_cons, Option.bind_eq_bind, Option.bind_eq_some_iff] at h
    obtain ⟨next, first, rest⟩ := h
    exact ih (linked.setAccess? first) rest

/-! ### Slots and bends -/

theorem span_of_unknown (linked : map.Linked) {node : NodeId} (unknown : map.nodeCount ≤ node.index) :
    map.span node = (0, 0) := by
  rw [span, linked.slots.getElem?_starts_succ_eq_none unknown]
  split <;> simp_all

theorem slotsAt_of_unknown (linked : map.Linked) {node : NodeId} (unknown : map.nodeCount ≤ node.index) :
    map.slotsAt node = [] := by
  rw [slotsAt, linked.slots.row?_eq_none_iff.2 unknown, Option.getD_none]

/-- The slots of a node are all there. -/
theorem span_inside (linked : map.Linked) (node : NodeId) :
    (map.span node).1 ≤ (map.span node).2 ∧ (map.span node).2 ≤ map.slots.items.size ∧
      (map.slots.items.extract (map.span node).1 (map.span node).2).toList = map.slotsAt node := by
  rcases Nat.lt_or_ge node.index map.nodeCount with known | unknown
  · obtain ⟨start, stop, hs, ht⟩ := linked.slots.exists_starts known
    rw [span_eq hs ht, slotsAt, Ragged.row?, hs, ht]
    exact ⟨linked.slots.ordered _ _ _ hs ht, linked.slots.inside _ _ ht, rfl⟩
  · rw [linked.span_of_unknown unknown, linked.slotsAt_of_unknown unknown]
    simp

theorem readSlots_eq (linked : map.Linked) (node : NodeId) : map.readSlots node = some (map.slotsAt node) := by
  obtain ⟨ordered, inside, row⟩ := linked.span_inside node
  rw [readSlots, Ragged.slice?_eq ordered inside, row]

theorem readDegree_eq (linked : map.Linked) (node : NodeId) : map.readDegree node = map.degree node := by
  obtain ⟨ordered, inside, row⟩ := linked.span_inside node
  rw [degree, ← row, Array.length_toList, Array.size_extract, Nat.min_eq_left inside, readDegree]

theorem readBends_eq (linked : map.Linked) (edge : EdgeId) : map.readBends edge = map.bends? edge := by
  rcases Nat.lt_or_ge edge.index map.edgeCount with known | unknown
  · obtain ⟨start, stop, hs, ht⟩ := linked.bends.exists_starts known
    simp only [readBends, hs, ht, Option.bind_eq_bind, Option.bind_some]
    exact linked.bends.slice?_eq_row? hs ht
  · rw [bends?, linked.bends.row?_eq_none_iff.2 unknown, readBends,
      linked.bends.getElem?_starts_succ_eq_none unknown]
    cases map.bends.starts[edge.index]? <;> rfl

/-! ### Edges -/

theorem exists_bends? (linked : map.Linked) {edge : EdgeId} (known : edge.index < map.edgeCount) :
    ∃ bends, map.bends? edge = some bends := by
  rw [← Option.ne_none_iff_exists', Ne, bends?, linked.bends.row?_eq_none_iff]
  exact Nat.not_le_of_lt known

/-- A known edge has an anchor in each direction, and reading finds it. -/
theorem exists_readAnchor (linked : map.Linked) {edge : EdgeId} {ends : Ends} (known : map.ends? edge = some ends)
    (t : Travel) : ∃ anchor, map.readAnchor edge t = some anchor ∧ map.anchor? edge t = some anchor := by
  have inside : edge.index < map.edgeCount := (Array.getElem?_eq_some_iff.1 known).1
  have far : (ends.target t).index < map.nodeCount := linked.nodes ends (Array.mem_of_getElem? known) t
  obtain ⟨bends, row⟩ := linked.exists_bends? inside
  obtain ⟨position, there⟩ : ∃ position, map.position? (ends.target t) = some position := exists_position? far
  rw [readAnchor, anchor?, linked.readBends_eq, row, known]
  simp only [Option.bind_eq_bind, Option.bind_some, there]
  cases t with
  | forward =>
    cases bends.head? with
    | none => exact ⟨position, rfl, rfl⟩
    | some bend => exact ⟨bend, rfl, rfl⟩
  | backward =>
    cases bends.getLast? with
    | none => exact ⟨position, rfl, rfl⟩
    | some bend => exact ⟨bend, rfl, rfl⟩

/-- A slot that is there is read as it is looked up, and it has something to say. -/
theorem exists_readIncidence (linked : map.Linked) {place : Nat} {slot : Slot}
    (there : map.slots.items[place]? = some slot) :
    ∃ i, map.readIncidence place = some i ∧ map.incidence? slot = some i := by
  have inside : slot.edge.index < map.edgeCount := linked.edges slot (Array.mem_of_getElem? there)
  obtain ⟨ends, known⟩ : ∃ ends, map.ends? slot.edge = some ends := ⟨_, Array.getElem?_eq_getElem inside⟩
  obtain ⟨anchor, read, found⟩ := linked.exists_readAnchor known slot.outward
  refine ⟨⟨slot.edge, ends.target slot.outward, slot.outward, anchor⟩, ?_, ?_⟩
  · rw [readIncidence, there]
    simp only [Option.bind_eq_bind, Option.bind_some, known, read]
    rfl
  · rw [incidence?, known, Option.bind_eq_bind, Option.bind_some, found]
    rfl

/-- Slots are read place by place. -/
theorem mapM_readIncidence (linked : map.Linked) {places : List Nat} {slots : List Slot}
    (there : places.map (map.slots.items[·]?) = slots.map some) :
    places.mapM map.readIncidence = some (slots.filterMap map.incidence?) := by
  induction places generalizing slots with
  | nil =>
    obtain rfl : slots = [] := by simpa using there.symm
    rfl
  | cons place places ih =>
    cases slots with
    | nil => cases there
    | cons slot slots =>
      obtain ⟨here, later⟩ := List.cons.inj there
      obtain ⟨i, read, found⟩ := linked.exists_readIncidence here
      rw [List.mapM_cons, read, ih later, List.filterMap_cons_some found]
      rfl

theorem readIncidences_eq (linked : map.Linked) (node : NodeId) :
    map.readIncidences node = some (map.incidences node) := by
  obtain ⟨ordered, inside, row⟩ := linked.span_inside node
  rw [incidences, ← row]
  exact linked.mapM_readIncidence (Ragged.map_getElem?_range' inside)

theorem far_lt (linked : map.Linked) {node : NodeId} {i : Incidence K} (h : i ∈ map.incidences node) :
    i.far.index < map.nodeCount := by
  obtain ⟨slot, -, said⟩ := List.mem_filterMap.1 h
  rw [incidence?, Option.bind_eq_bind, Option.bind_eq_some_iff] at said
  obtain ⟨ends, known, said⟩ := said
  obtain ⟨anchor, -, said⟩ := Option.bind_eq_some_iff.1 said
  cases said
  exact linked.nodes ends (Array.mem_of_getElem? known) slot.outward

theorem incidences_of_unknown (linked : map.Linked) {node : NodeId} (unknown : map.nodeCount ≤ node.index) :
    map.incidences node = [] := by
  rw [incidences, linked.slotsAt_of_unknown unknown, List.filterMap_nil]

/-- No edge is found from an unknown node, and none to it. -/
theorem findEdge?_of_unknown (linked : map.Linked) {node : NodeId} (unknown : map.nodeCount ≤ node.index)
    (other : NodeId) : map.findEdge? node other = none ∧ map.findEdge? other node = none := by
  constructor
  · rw [findEdge?, linked.incidences_of_unknown unknown]
    rfl
  · by_contra found
    obtain ⟨edge, found⟩ := Option.ne_none_iff_exists'.1 found
    obtain ⟨i, hi, rfl, -, -⟩ := exists_of_findEdge? found
    exact Nat.not_lt_of_le unknown (linked.far_lt hi)

theorem allows_of_unknown (linked : map.Linked) {edge : EdgeId} (unknown : map.edgeCount ≤ edge.index) (t : Travel) :
    map.allows edge t = false := by
  have none : map.access[edge.index]? = none := Array.getElem?_eq_none (linked.access ▸ unknown)
  rw [allows, none]
  rfl

theorem readEdge_eq (linked : map.Linked) (start finish : NodeId) :
    map.readEdge start finish = some (map.findEdge? start finish) := by
  rw [readEdge, linked.readIncidences_eq]
  rfl

/-! ### Surveys and resolutions -/

theorem survey_reader (linked : map.Linked) (allows : Openness) (node : NodeId) :
    (map.reader allows).survey node = some (survey map.view allows node) := by
  have place : (map.reader allows).position? node = some (map.position? node) := rfl
  have list : (map.reader allows).incidences node = some (map.incidences node) := linked.readIncidences_eq node
  have inspect : (map.reader allows).inspect node = fun i => pure (i.arm allows) := rfl
  rw [survey_eq, Host.survey, place, list, inspect, Option.bind_eq_bind, Option.bind_some]
  show _ = some ((map.position? node).elim _ _)
  cases map.position? node with
  | none => rfl
  | some position =>
    dsimp only
    rw [Option.bind_eq_bind, Option.bind_some, List.mapM_pure]
    rfl

theorem resolve_reader [Scalar K] (linked : map.Linked) (allows : Openness) (rule : SideRule K) (node : NodeId)
    (query : Point K) :
    (map.reader allows).resolve rule node query = some (resolve map.view allows rule node query) := by
  rw [resolve_eq, Host.resolve]
  cases query.checked with
  | error fault => rfl
  | ok query =>
    dsimp only
    rw [linked.survey_reader, Option.bind_eq_bind, Option.bind_some]
    cases survey map.view allows node with
    | error fault => rfl
    | ok n =>
      dsimp only
      rw [forM_note_reader]
      rfl

end Linked

/-! ## Maps that are read -/

/-- Whatever is asked of the map, reading by places has the result of looking up, and it says of unknown nodes and edges
that they have nothing. -/
structure ReadsInRange [Scalar K] (map : RoadMap K) : Prop where
  slots : ∀ node, map.readSlots node = some (map.slotsAt node)
  degree : ∀ node, map.readDegree node = map.degree node
  incidences : ∀ node, map.readIncidences node = some (map.incidences node)
  findEdge : ∀ start finish, map.readEdge start finish = some (map.findEdge? start finish)
  survey : ∀ allows node, (map.reader allows).survey node = some (survey map.view allows node)
  resolve : ∀ allows rule node query,
    (map.reader allows).resolve rule node query = some (resolve map.view allows rule node query)
  position : ∀ node, map.position? node = none ↔ map.nodeCount ≤ node.index
  unknownNode : ∀ node, map.nodeCount ≤ node.index → map.slotsAt node = [] ∧ map.degree node = 0 ∧
    map.incidences node = [] ∧ ∀ other, map.findEdge? node other = none ∧ map.findEdge? other node = none
  unknownEdge : ∀ edge travel, map.edgeCount ≤ edge.index → map.allows edge travel = false
  ends : ∀ edge, map.ends? edge = none ↔ map.edgeCount ≤ edge.index
  bends : ∀ edge, map.readBends edge = map.bends? edge
  noBends : ∀ edge, map.readBends edge = none ↔ map.edgeCount ≤ edge.index

theorem Linked.readsInRange [Scalar K] (linked : map.Linked) : map.ReadsInRange := by
  constructor
  case slots => exact linked.readSlots_eq
  case degree => exact linked.readDegree_eq
  case incidences => exact linked.readIncidences_eq
  case findEdge => exact linked.readEdge_eq
  case survey => exact linked.survey_reader
  case resolve => exact linked.resolve_reader
  case position => exact fun node => Array.getElem?_eq_none_iff
  case unknownNode =>
    intro node unknown
    have none := linked.slotsAt_of_unknown unknown
    exact ⟨none, by rw [degree, none, List.length_nil], linked.incidences_of_unknown unknown,
      linked.findEdge?_of_unknown unknown⟩
  case unknownEdge => exact fun edge travel unknown => linked.allows_of_unknown unknown travel
  case ends => exact ends?_eq_none_iff
  case bends => exact linked.readBends_eq
  case noBends =>
    intro edge
    rw [linked.readBends_eq, bends?, linked.bends.row?_eq_none_iff]

end RoadMap

/-- **No map is read out of range**: whatever a script makes, its slots are gathered without a miss, and whatever access
its edges are given later, everything that is asked of the map is there. -/
theorem mapOf_readsInRange [Scalar K] {script : List (Step K)} {changes : List (EdgeId × Access)} {map : RoadMap K}
    (made : (mapOf script).setAll? changes = some map) :
    (let draft := (Draft.empty.run script).2
     Ragged.gather? Draft.emptySlot draft.positions.size draft.slots = some map.slots) ∧ map.ReadsInRange := by
  have linked : map.Linked := (linked_mapOf script).setAll? made
  refine ⟨?_, linked.readsInRange⟩
  obtain ⟨access, rfl⟩ := RoadMap.exists_of_setAll? made
  rw [show (mapOf script).slots = _ from Draft.slots_build _]
  exact Draft.gather?_slots _

/-- In the tangle, the loop is closed and the first edge is opened toward its start only. -/
theorem mapOf_readsInRange_tangle :
    let map : RoadMap Rat := { mapOf tangle with access := #[.backwardOnly, .closed, .closed] }
    (mapOf tangle).setAll? [(⟨1⟩, .closed), (⟨0⟩, .backwardOnly)] = some map ∧
      (let draft := (Draft.empty.run tangle).2
       Ragged.gather? Draft.emptySlot draft.positions.size draft.slots = some map.slots) ∧ map.ReadsInRange := by
  intro map
  have made : (mapOf tangle).setAll? [(⟨1⟩, .closed), (⟨0⟩, .backwardOnly)] = some map := by decide +kernel
  exact ⟨made, mapOf_readsInRange made⟩

/-- The tangle has three nodes and three edges. Right behind them there are no bends to be had, and no slots. -/
example : (mapOf tangle).readBends ⟨3⟩ = none ∧ (mapOf tangle).readBends ⟨2⟩ = some [] ∧
    (mapOf tangle).readSlots ⟨3⟩ = some [] ∧ (mapOf tangle).readSlots .unset = some [] := by decide +kernel

end Roadside
