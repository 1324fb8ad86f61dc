import Roadside.Proofs.Search

/-!
# The first edge between two nodes

A node lists an edge by the direction that leads away from it, wherever the edge is stored to start. So the edges from
one node to another may be stored either way, one beside the other, and a loop leads back to its node both ways. The
search for an edge looks at the list of the first node alone.

* **A node lists its edges in order** (`listsInOrder_build`), so that what comes first has the least number.
* **The search is exact** (`findEdge?_isFirst`): whatever access the edges have been given, it finds the edge with the
  least number among those that lead from the one node to the other, by their stored ends and their stored access, and
  it finds none only if there is none.
-/

namespace Roadside

variable {K : Type}

/-- What is found first in an ordered list comes before everything else that fits. -/
theorem rel_of_find?_eq_some {α : Type} {r : α → α → Prop} (refl : ∀ a, r a a) {l : List α} (ordered : l.Pairwise r)
    {p : α → Bool} {a b : α} (found : l.find? p = some a) (hb : b ∈ l) (fits : p b = true) : r a b := by
  obtain ⟨-, before, after, rfl, passed⟩ := List.find?_eq_some_iff_append.1 found
  obtain ⟨-, ordered, -⟩ := List.pairwise_append.1 ordered
  rcases List.mem_append.1 hb with hb | hb
  · have unfit := passed b hb
    simp [fits] at unfit
  · rcases List.mem_cons.1 hb with rfl | hb
    · exact refl b
    · exact List.rel_of_pairwise_cons ordered hb

namespace RoadMap

/-! ## What leads from one node to another -/

/-- By its stored ends and its stored access, the edge leads from one node to the other. -/
def Leads (map : RoadMap K) (edge : EdgeId) (start finish : NodeId) : Prop :=
  ∃ ends access, map.ends? edge = some ends ∧ map.access[edge.index]? = some access ∧
    (ends.start = start ∧ ends.finish = finish ∧ access.forward = true ∨
      ends.start = finish ∧ ends.finish = start ∧ access.backward = true)

/-- The edge leads from one node to the other, and no edge with a lower number does. -/
structure IsFirst (map : RoadMap K) (edge : EdgeId) (start finish : NodeId) : Prop where
  leads : map.Leads edge start finish
  least : ∀ other, map.Leads other start finish → edge.index ≤ other.index

/-- Every node lists its edges in the order of their numbers. -/
def ListsInOrder (map : RoadMap K) : Prop :=
  ∀ node, (map.incidences node).Pairwise fun i j => i.edge.index ≤ j.edge.index

variable {map : RoadMap K} {edge : EdgeId} {start finish : NodeId}

/-- An edge leads from the start of one of its directions to the other end, if it is open that way. -/
theorem leads_iff : map.Leads edge start finish ↔
    ∃ ends t, map.ends? edge = some ends ∧ ends.source t = start ∧ ends.target t = finish ∧
      map.allows edge t = true := by
  constructor
  · rintro ⟨ends, access, known, given, ⟨rfl, rfl, isOpen⟩ | ⟨rfl, rfl, isOpen⟩⟩
    · exact ⟨ends, .forward, known, rfl, rfl, by rw [allows, given]; exact isOpen⟩
    · exact ⟨ends, .backward, known, rfl, rfl, by rw [allows, given]; exact isOpen⟩
  · rintro ⟨ends, t, known, rfl, rfl, isOpen⟩
    obtain ⟨access, given, isOpen⟩ := (Option.any_eq_true ..).1 isOpen
    refine ⟨ends, access, known, given, ?_⟩
    cases t with
    | forward => exact .inl ⟨rfl, rfl, isOpen⟩
    | backward => exact .inr ⟨rfl, rfl, isOpen⟩

/-- Of two edges that are first, neither has the lower number. -/
theorem IsFirst.eq {other : EdgeId} (h : map.IsFirst edge start finish) (h' : map.IsFirst other start finish) :
    edge = other :=
  Ident.index_inj.1 (Nat.le_antisymm (h.least other h'.leads) (h'.least edge h.leads))

/-! ## The search -/

section Search

variable (lists : map.ListsEnds)
include lists

/-- The edges that lead from a node are those that it lists and that traffic may leave it on. -/
theorem leads_iff_exists_incidence : map.Leads edge start finish ↔
    ∃ i ∈ map.incidences start, i.edge = edge ∧ i.far = finish ∧ i.leaves map.allows = true := by
  rw [leads_iff]
  constructor
  · rintro ⟨ends, t, known, source, target, isOpen⟩
    obtain ⟨i, listed, rfl, far, rfl⟩ := (lists start finish edge t).2 ⟨ends, known, source, target⟩
    exact ⟨i, listed, rfl, far, isOpen⟩
  · rintro ⟨i, listed, rfl, rfl, leave⟩
    obtain ⟨ends, known, source, target⟩ := lists.exists_ends listed
    exact ⟨ends, i.outward, known, source, target, leave⟩

theorem findEdge?_eq_none_iff_leads :
    map.findEdge? start finish = none ↔ ∀ edge, ¬map.Leads edge start finish := by
  constructor
  · intro none edge leads
    obtain ⟨i, listed, -, rfl, leave⟩ := (leads_iff_exists_incidence lists).1 leads
    exact findEdge?_ne_none listed leave none
  · intro none
    by_contra found
    obtain ⟨edge, found⟩ := Option.ne_none_iff_exists'.1 found
    obtain ⟨i, listed, far, leave, number⟩ := exists_of_findEdge? found
    exact none edge ((leads_iff_exists_incidence lists).2 ⟨i, listed, number, far, leave⟩)

variable (ordered : map.ListsInOrder)
include ordered

/-- The edge that is found leads to the other node, and what the list names later has no lower number. -/
theorem isFirst_of_findEdge? (found : map.findEdge? start finish = some edge) : map.IsFirst edge start finish := by
  constructor
  case leads =>
    obtain ⟨i, listed, far, leave, number⟩ := exists_of_findEdge? found
    exact (leads_iff_exists_incidence lists).2 ⟨i, listed, number, far, leave⟩
  case least =>
    intro other leads
    obtain ⟨j, listed, rfl, rfl, leave⟩ := (leads_iff_exists_incidence lists).1 leads
    obtain ⟨i, first, rfl⟩ := Option.map_eq_some_iff.1 found
    have fits : (decide (j.far = j.far) && map.allows j.edge j.outward) = true := by
      simpa [Incidence.leaves] using leave
    exact rel_of_find?_eq_some (r := fun i j => i.edge.index ≤ j.edge.index) (fun _ => Nat.le_refl _)
      (ordered start) first listed fits

theorem findEdge?_eq_some_iff : map.findEdge? start finish = some edge ↔ map.IsFirst edge start finish := by
  constructor
  · exact isFirst_of_findEdge? lists ordered
  · intro first
    have found : map.findEdge? start finish ≠ none := fun none =>
      (findEdge?_eq_none_iff_leads lists).1 none edge first.leads
    obtain ⟨other, found⟩ := Option.ne_none_iff_exists'.1 found
    rw [found, first.eq (isFirst_of_findEdge? lists ordered found)]

end Search

end RoadMap

namespace Draft

variable {d : Draft K}

/-- Segments are gone through in order, so a packed map lists them in order. -/
theorem listsInOrder_build (fits : d.segments.size ≤ UInt32.size) : d.build.ListsInOrder := by
  intro node
  have number : ∀ s k, (s, k) ∈ d.segments.toList.zipIdx →
      ∀ i ∈ (s.outwards node).filterMap (d.incidence? s k), i.edge.index = k := by
    intro s k here i listed
    rw [List.mem_zipIdx_iff_getElem?, Array.getElem?_toList] at here
    obtain ⟨t, -, listed⟩ := List.mem_filterMap.1 listed
    rw [(incidence?_eq_some listed).1, index_of_getElem? fits here]
  have numbers : (d.segments.toList.zipIdx.map (·.2)).Pairwise (· < ·) := by
    rw [List.zipIdx_map_snd]
    exact List.pairwise_lt_range' 1
  rw [incidences_build fits, List.pairwise_flatMap]
  constructor
  · rintro ⟨s, k⟩ here
    refine List.pairwise_of_forall_mem_list fun i hi j hj => ?_
    rw [number s k here i hi, number s k here j hj]
  · refine List.Pairwise.imp_of_mem ?_ (List.pairwise_map.1 numbers)
    rintro ⟨s, k⟩ ⟨s', k'⟩ here here' before i hi j hj
    rw [number s k here i hi, number s' k' here' j hj]
    exact Nat.le_of_lt before

end Draft

/-- **The search is exact**: whatever a script makes and whatever access is stored later, the edge that is found between
two nodes, known or not, is the first one that leads from the one to the other, and none is found iff none does. -/
theorem findEdge?_isFirst (script : List (Step K)) (fits : (mapOf script).Fits) (access : Array Access)
    (start finish : NodeId) :
    let map : RoadMap K := { mapOf script with access }
    (∀ edge, map.findEdge? start finish = some edge ↔ map.IsFirst edge start finish) ∧
      (map.findEdge? start finish = none ↔ ∀ edge, ¬map.Leads edge start finish) := by
  intro map
  have numbered := Draft.size_segments_le fits
  have lists : map.ListsEnds := Draft.listsEnds_build numbered
  have ordered : map.ListsInOrder := Draft.listsInOrder_build numbered
  exact ⟨fun edge => RoadMap.findEdge?_eq_some_iff lists ordered, RoadMap.findEdge?_eq_none_iff_leads lists⟩

/-- Three roads between two nodes, the second one stored the other way, and a loop. -/
def sideBySide : List (Step Rat) :=
  [.node ⟨0, 0⟩, .node ⟨0, 1⟩, .segment (.straight ⟨0⟩ ⟨1⟩ .both), .segment (.straight ⟨1⟩ ⟨0⟩ .forwardOnly),
    .segment (.straight ⟨1⟩ ⟨1⟩ .closed), .segment (.straight ⟨0⟩ ⟨1⟩ .forwardOnly)]

/-- The first road is opened toward its start only, the second one is turned, and the loop is opened one way. -/
theorem findEdge?_isFirst_sideBySide :
    let map : RoadMap Rat := { mapOf sideBySide with access := #[.backwardOnly, .backwardOnly, .backwardOnly, .both] }
    (mapOf sideBySide).Fits ∧
      (∀ edge, map.findEdge? ⟨0⟩ ⟨1⟩ = some edge ↔ map.IsFirst edge ⟨0⟩ ⟨1⟩) ∧
      (map.findEdge? ⟨0⟩ ⟨1⟩ = none ↔ ∀ edge, ¬map.Leads edge ⟨0⟩ ⟨1⟩) := by
  have fits : (mapOf sideBySide).Fits := by decide +kernel
  exact ⟨fits, findEdge?_isFirst sideBySide fits _ ⟨0⟩ ⟨1⟩⟩

/-- The second road is found one way and the first one the other way, and the loop is found at its node. -/
example :
    let map : RoadMap Rat := { mapOf sideBySide with access := #[.backwardOnly, .backwardOnly, .backwardOnly, .both] }
    map.findEdge? ⟨0⟩ ⟨1⟩ = some ⟨1⟩ ∧ map.findEdge? ⟨1⟩ ⟨0⟩ = some ⟨0⟩ ∧ map.findEdge? ⟨1⟩ ⟨1⟩ = some ⟨2⟩ ∧
      map.findEdge? ⟨0⟩ ⟨0⟩ = none := by decide +kernel

end Roadside
