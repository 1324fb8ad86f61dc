import Roadside.Index
import Roadside.Proofs.Doubles
import Roadside.Script

/-!
# The nearest nodes

An index finds entries, and a map knows nodes by their numbers. What an index promises of the entries of a map carries
over to the nodes: the numbers are told apart, and each of them stands for the position that was looked at.

* **An index that goes outward lists the nearest nodes** (`Index.GoesOutward.listsNearest`), as many as are wanted or as
  there are, and **one that finds the closest entry snaps to the nearest node** (`Index.FindsClosest.snaps`). This holds
  of any scalars whose `≤` excludes `>`.
* **Sorting does both** (`Index.goesOutward_sorting`, `Index.findsClosest_sorting`) where points are finite.
* **The nearest nodes are found** (`nearest_mapOf`), by any index that keeps its promises and by the one that sorts.
-/

namespace Roadside

variable {K : Type}

/-! ## Entries -/

namespace RoadMap

theorem length_entries (map : RoadMap K) : map.entries.length = map.nodeCount := by
  simp [entries, nodeCount]

variable {map : RoadMap K}

/-- The entries of a map are its nodes where they lie. -/
theorem mem_entries (nodes : map.nodeCount ≤ UInt32.size) {node : NodeId} {position : Point K} :
    (node, position) ∈ map.entries ↔ map.position? node = some position := by
  rw [entries, List.mem_map, position?]
  constructor
  · rintro ⟨⟨p, i⟩, here, same⟩
    obtain ⟨rfl, rfl⟩ := Prod.mk.inj same
    rw [List.mk_mem_zipIdx_iff_getElem?, Array.getElem?_toList] at here
    have inside : i < map.nodeCount := (Array.getElem?_eq_some_iff.1 here).1
    rwa [Ident.index_ofIndex (by omega)]
  · intro here
    refine ⟨(position, node.index), ?_, Prod.ext (Ident.ofIndex_index node) rfl⟩
    rwa [List.mk_mem_zipIdx_iff_getElem?, Array.getElem?_toList]

/-- An entry's number names a node, even where numbers wrap around. -/
theorem index_lt_of_mem_entries {entry : Entry K} (h : entry ∈ map.entries) : entry.1.index < map.nodeCount := by
  obtain ⟨⟨p, i⟩, here, rfl⟩ := List.mem_map.1 h
  have inside := List.snd_lt_of_mem_zipIdx here
  rw [Array.length_toList] at inside
  exact (Ident.index_ofIndex_le i).trans_lt inside

theorem nodup_map_fst_entries (nodes : map.nodeCount ≤ UInt32.size) : (map.entries.map (·.1)).Nodup := by
  have numbers : map.entries.map (·.1) = (List.range map.nodeCount).map fun i => (.ofIndex i : NodeId) := by
    rw [entries, List.map_map, nodeCount, ← Array.length_toList, List.range_eq_range', ← List.zipIdx_map_snd 0,
      List.map_map]
    rfl
  rw [numbers]
  refine List.Nodup.map_on (fun i hi j hj same => ?_) List.nodup_range
  rw [List.mem_range] at hi hj
  exact (Ident.ofIndex_inj (by omega) (by omega)).1 same

theorem entries_eq_nil_iff : map.entries = [] ↔ map.nodeCount = 0 := by
  rw [← List.length_eq_zero_iff, length_entries]

/-- What holds of the positions of a map holds of its entries. -/
theorem forall_entries {P : Point K → Prop} (h : ∀ p ∈ map.positions, P p) : ∀ e ∈ map.entries, P e.2 := by
  intro e he
  obtain ⟨⟨p, i⟩, here, rfl⟩ := List.mem_map.1 he
  exact h p (Array.mem_toList_iff.1 (List.fst_mem_of_mem_zipIdx here))

end RoadMap

/-! ## What is found -/

/-- These are the nearest nodes to a point, up to `count` of them. -/
structure ListsNearest [Scalar K] (map : RoadMap K) (point : Point K) (count : Nat) (found : List NodeId) : Prop where
  length : found.length = min count map.nodeCount
  nodup : found.Nodup
  known : ∀ node ∈ found, node.index < map.nodeCount
  /-- No node is followed by one that is nearer. -/
  ascending : found.Pairwise fun a b => ∀ p q, map.position? a = some p → map.position? b = some q →
    p.squaredDistance point ≤ q.squaredDistance point
  /-- No node that is left out is nearer than one that is not. -/
  nearest : ∀ a ∈ found, ∀ b ∉ found, ∀ p q, map.position? a = some p → map.position? b = some q →
    ¬q.squaredDistance point < p.squaredDistance point

/-- This is the nearest node to a point, if there are nodes. -/
structure Snaps [Scalar K] (map : RoadMap K) (point : Point K) (found : Option NodeId) : Prop where
  eq_none_iff : found = none ↔ map.nodeCount = 0
  nearest : ∀ a, found = some a → ∃ p, map.position? a = some p ∧
    ∀ b q, b ≠ a → map.position? b = some q → ¬q.squaredDistance point < p.squaredDistance point

section Finding

variable [Scalar K] {map : RoadMap K} {point : Point K} {index : Index K}

/-- An index that goes outward comes to the nearest nodes first. -/
theorem Index.GoesOutward.listsNearest (h : index.GoesOutward map.entries point) (nodes : map.nodeCount ≤ UInt32.size)
    (excludes : ∀ {x y : K}, x ≤ y → ¬y < x) (count : Nat) :
    ListsNearest map point count (index.nearest map point count) := by
  have nodup : ((index.outward map.entries point).map (·.1)).Nodup :=
    (h.once.map _).nodup_iff.2 (RoadMap.nodup_map_fst_entries nodes)
  -- a node of the map is passed where it lies, and nowhere else
  have passed {a : NodeId} {p : Point K} : (a, p) ∈ index.outward map.entries point ↔ map.position? a = some p :=
    h.once.mem_iff.trans (RoadMap.mem_entries nodes)
  have taken {a : NodeId} {p : Point K} (found : a ∈ index.nearest map point count)
      (lies : map.position? a = some p) : (a, p) ∈ (index.outward map.entries point).take count := by
    obtain ⟨⟨a', p'⟩, here, rfl⟩ := List.mem_map.1 found
    obtain rfl : p' = p := Option.some.inj ((passed.1 (List.mem_of_mem_take here)).symm.trans lies)
    exact here
  constructor
  case length => rw [Index.nearest, List.length_map, List.length_take, h.once.length_eq, RoadMap.length_entries]
  case nodup => exact nodup.sublist ((List.take_sublist ..).map _)
  case known =>
    intro node found
    obtain ⟨⟨node, p⟩, here, rfl⟩ := List.mem_map.1 found
    have lies := passed.1 (List.mem_of_mem_take here)
    exact (Array.getElem?_eq_some_iff.1 lies).1
  case ascending =>
    rw [Index.nearest, List.pairwise_map]
    refine (h.ascending.sublist (List.take_sublist ..)).imp_of_mem fun {a b} ha hb le p q hp hq => ?_
    obtain rfl : a.2 = p := Option.some.inj ((passed.1 (List.mem_of_mem_take ha)).symm.trans hp)
    obtain rfl : b.2 = q := Option.some.inj ((passed.1 (List.mem_of_mem_take hb)).symm.trans hq)
    exact le
  case nearest =>
    intro a found b other p q hp hq
    have later : (b, q) ∈ (index.outward map.entries point).drop count := by
      have here := passed.2 hq
      rw [← List.take_append_drop count (index.outward map.entries point), List.mem_append] at here
      exact here.resolve_left fun first => other (List.mem_map.2 ⟨_, first, rfl⟩)
    have le : p.squaredDistance point ≤ q.squaredDistance point :=
      h.ascending.rel_of_mem_take_of_mem_drop (taken found hp) later
    exact excludes le

/-- The first node of an index that goes outward is the nearest one. -/
theorem Index.GoesOutward.snaps_head? (h : index.GoesOutward map.entries point) (nodes : map.nodeCount ≤ UInt32.size)
    (excludes : ∀ {x y : K}, x ≤ y → ¬y < x) : Snaps map point (index.nearest map point 1).head? := by
  have first := h.listsNearest nodes excludes 1
  constructor
  case eq_none_iff =>
    rw [List.head?_eq_none_iff, ← List.length_eq_zero_iff, first.length]
    omega
  case nearest =>
    intro a head
    have single : index.nearest map point 1 = [a] := by
      have short : (index.nearest map point 1).length ≤ 1 := first.length ▸ Nat.min_le_left ..
      match index.nearest map point 1, head, short with
      | [_], rfl, _ => rfl
    rw [single] at first
    have known := first.known a (List.mem_singleton_self a)
    refine ⟨_, Array.getElem?_eq_getElem known, fun b q other hq => ?_⟩
    exact first.nearest a (List.mem_singleton_self a) b (by simpa using other) _ q (Array.getElem?_eq_getElem known) hq

/-- Whatever the distances are, an index finds no node only where there is none. -/
theorem Index.FindsClosest.nearest?_eq_none_iff (h : index.FindsClosest map.entries point) :
    index.nearest? map point = none ↔ map.nodeCount = 0 := by
  rw [Index.nearest?, Option.map_eq_none_iff, h.eq_none_iff, RoadMap.entries_eq_nil_iff]

/-- Whatever the distances are, the node that an index finds is one of the map. -/
theorem Index.FindsClosest.index_lt_of_nearest? {node : NodeId} (h : index.FindsClosest map.entries point)
    (found : index.nearest? map point = some node) : node.index < map.nodeCount := by
  obtain ⟨entry, here, rfl⟩ := Option.map_eq_some_iff.1 found
  exact RoadMap.index_lt_of_mem_entries (h.mem entry here)

/-- The node of the closest entry is the nearest one. -/
theorem Index.FindsClosest.snaps (h : index.FindsClosest map.entries point) (nodes : map.nodeCount ≤ UInt32.size)
    (excludes : ∀ {x y : K}, x ≤ y → ¬y < x) : Snaps map point (index.nearest? map point) where
  eq_none_iff := h.nearest?_eq_none_iff
  nearest := by
    intro a found
    obtain ⟨⟨a, p⟩, here, rfl⟩ := Option.map_eq_some_iff.1 found
    refine ⟨p, (RoadMap.mem_entries nodes).1 (h.mem _ here), fun b q _ hq => ?_⟩
    exact excludes (h.least _ here (b, q) ((RoadMap.mem_entries nodes).2 hq))

end Finding

/-! ## Doubles -/

section Sorting

variable {entries : List (Entry Float)} {point : Point Float}

/-- Finite positions are sorted by their distance from a finite point. -/
theorem Index.goesOutward_sorting (finite : ∀ e ∈ entries, e.2.IsFinite) (hp : point.IsFinite) :
    Index.sorting.GoesOutward entries point where
  once := List.mergeSort_perm ..
  ascending := Double.pairwise_mergeSort _ fun e he => Point.isNaN_squaredDistance (finite e he) hp

/-- The first of the finite positions, sorted by their distance from a finite point, is the closest. -/
theorem Index.findsClosest_sorting (finite : ∀ e ∈ entries, e.2.IsFinite) (hp : point.IsFinite) :
    Index.sorting.FindsClosest entries point := by
  have outward := Index.goesOutward_sorting finite hp
  have mem {e : Entry Float} : e ∈ Index.sorted entries point ↔ e ∈ entries := List.mem_mergeSort
  constructor
  case eq_none_iff =>
    have length : (Index.sorted entries point).length = entries.length := outward.once.length_eq
    show (Index.sorted entries point).head? = none ↔ entries = []
    rw [List.head?_eq_none_iff, ← List.length_eq_zero_iff, length, List.length_eq_zero_iff]
  case mem => exact fun found head => mem.1 (List.mem_of_head? head)
  case least =>
    intro found head entry he
    obtain ⟨rest, sorted⟩ : ∃ rest, Index.sorted entries point = found :: rest := List.head?_eq_some_iff.1 head
    have ascending : (found :: rest).Pairwise fun a b => a.2.squaredDistance point ≤ b.2.squaredDistance point :=
      sorted ▸ outward.ascending
    rcases List.mem_cons.1 (sorted ▸ mem.2 he) with rfl | later
    · have number := Point.isNaN_squaredDistance (finite entry he) hp
      exact (Double.le_total number number).elim id id
    · exact (List.pairwise_cons.1 ascending).1 entry later

end Sorting

/-- An index finds the nearest nodes of a map to a point. -/
structure Index.FindsNearest [Scalar K] (index : Index K) (map : RoadMap K) (point : Point K) : Prop where
  lists : ∀ count, ListsNearest map point count (index.nearest map point count)
  snaps_head? : Snaps map point (index.nearest map point 1).head?
  snaps : Snaps map point (index.nearest? map point)

/-- **The nearest nodes are found**: on a map that a script makes from finite positions, for a finite point and any
index that goes through the nodes outward from it and finds the closest one, the index lists the nearest nodes, as many
as are wanted, and snaps to the nearest one. So does the index that sorts. Nodes at one distance may come in another
order in the one than in the other. -/
theorem nearest_mapOf {script : List (Step Float)} (fits : (mapOf script).Fits)
    (finite : ∀ position ∈ (mapOf script).positions, position.IsFinite) {point : Point Float} (hp : point.IsFinite)
    {index : Index Float} (outward : index.GoesOutward (mapOf script).entries point)
    (closest : index.FindsClosest (mapOf script).entries point) :
    index.FindsNearest (mapOf script) point ∧ Index.sorting.FindsNearest (mapOf script) point := by
  have nodes : (mapOf script).nodeCount ≤ UInt32.size := fits.nodes.le
  have excludes {x y : Float} (le : x ≤ y) : ¬y < x := Double.not_lt_of_le le
  have finds {index : Index Float} (outward : index.GoesOutward (mapOf script).entries point)
      (closest : index.FindsClosest (mapOf script).entries point) : index.FindsNearest (mapOf script) point :=
    ⟨outward.listsNearest nodes excludes, outward.snaps_head? nodes excludes, closest.snaps nodes excludes⟩
  have entries := RoadMap.forall_entries finite
  exact ⟨finds outward closest, finds (Index.goesOutward_sorting entries hp) (Index.findsClosest_sorting entries hp)⟩

/-- Four nodes, two of which coincide. The index goes through the last node first where it has the choice, and finds the
first one. -/
theorem nearest_mapOf_twins :
    let script : List (Step Float) := [.node ⟨3, 4⟩, .node ⟨1, 0⟩, .node ⟨-90, 180⟩, .node ⟨1, 0⟩]
    let point : Point Float := ⟨0, 0⟩
    let index : Index Float :=
      ⟨fun entries => Index.sorting.outward entries.reverse, Index.sorting.closest?⟩
    ((mapOf script).Fits ∧ (∀ position ∈ (mapOf script).positions, position.IsFinite) ∧ point.IsFinite ∧
      index.GoesOutward (mapOf script).entries point ∧ index.FindsClosest (mapOf script).entries point) ∧
    index.FindsNearest (mapOf script) point ∧ Index.sorting.FindsNearest (mapOf script) point := by
  intro script point index
  have fits : (mapOf script).Fits := by decide +kernel
  have finite : ∀ position ∈ (mapOf script).positions, position.IsFinite := by decide +kernel
  have hp : point.IsFinite := by decide +kernel
  have entries := RoadMap.forall_entries finite
  have outward : index.GoesOutward (mapOf script).entries point := by
    have sorted : Index.sorting.GoesOutward (mapOf script).entries.reverse point :=
      Index.goesOutward_sorting (fun e he => entries e (List.mem_reverse.1 he)) hp
    exact ⟨sorted.once.trans (List.reverse_perm _), sorted.ascending⟩
  have closest : index.FindsClosest (mapOf script).entries point := by
    have sorted : Index.sorting.FindsClosest (mapOf script).entries point := Index.findsClosest_sorting entries hp
    exact ⟨sorted.eq_none_iff, sorted.mem, sorted.least⟩
  exact ⟨⟨fits, finite, hp, outward, closest⟩, nearest_mapOf fits finite hp outward closest⟩

end Roadside
