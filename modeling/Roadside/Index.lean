import Roadside.RoadMap

/-!
# The nodes near a point

A map does not search for the nodes near a point itself. It hands all of its nodes with their positions to an `Index`
and takes the numbers of what the index finds.

* `Index.GoesOutward` and `Index.FindsClosest` are what is expected of an index. Entries at one distance may come in any
  order, and any of them may be the one that is found.
* `Index.sorting` is an index without any structure: it sorts the entries by their distance.
-/

namespace Roadside

variable {K : Type}

/-- A node with its position. -/
abbrev Entry (K : Type) := NodeId × Point K

/-- The nodes of a map in the order of their numbers. -/
def RoadMap.entries (map : RoadMap K) : List (Entry K) :=
  map.positions.toList.zipIdx.map fun (position, i) => (.ofIndex i, position)

/-- Two ways to search entries, given a point. -/
structure Index (K : Type) where
  /-- Goes through the entries one after the other. -/
  outward : List (Entry K) → Point K → List (Entry K)
  /-- Finds a single entry. -/
  closest? : List (Entry K) → Point K → Option (Entry K)

namespace Index

/-- The nearest nodes to a point, up to `count` of them, the nearest first. -/
def nearest (index : Index K) (map : RoadMap K) (point : Point K) (count : Nat) : List NodeId :=
  ((index.outward map.entries point).take count).map (·.1)

/-- The nearest node to a point. -/
def nearest? (index : Index K) (map : RoadMap K) (point : Point K) : Option NodeId :=
  (index.closest? map.entries point).map (·.1)

variable [Scalar K]

/-! ## What is expected of an index -/

/-- The index goes through each of the entries once, and outward from the point. -/
structure GoesOutward (index : Index K) (entries : List (Entry K)) (point : Point K) : Prop where
  once : (index.outward entries point).Perm entries
  ascending : (index.outward entries point).Pairwise fun a b =>
    a.2.squaredDistance point ≤ b.2.squaredDistance point

/-- The index finds one of the entries, if there are any, and none of them is nearer to the point. -/
structure FindsClosest (index : Index K) (entries : List (Entry K)) (point : Point K) : Prop where
  eq_none_iff : index.closest? entries point = none ↔ entries = []
  mem : ∀ found, index.closest? entries point = some found → found ∈ entries
  least : ∀ found, index.closest? entries point = some found → ∀ entry ∈ entries,
    found.2.squaredDistance point ≤ entry.2.squaredDistance point

/-! ## Sorting -/

/-- The entries by their distance from a point; at one distance they stay in order. -/
def sorted (entries : List (Entry K)) (point : Point K) : List (Entry K) :=
  entries.mergeSort fun a b => a.2.squaredDistance point ≤ b.2.squaredDistance point

/-- The index that sorts the entries. -/
def sorting : Index K where
  outward := sorted
  closest? entries point := (sorted entries point).head?

end Index

end Roadside
