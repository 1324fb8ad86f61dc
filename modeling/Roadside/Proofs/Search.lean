import Roadside.Proofs.Decision
import Roadside.Proofs.Incidences

/-!
# Directions and the search for edges agree

The search for an edge between two nodes goes through the list of the node that it starts from, and directions at a
node go through that node's own list. Under the map's own access, whatever it has been set to, both find the same edges.

* **What arrives and leaves can be found** (`findEdge?_eq_none_iff_arrives`, `findEdge?_eq_none_iff_leaves`).
* **The edges of pairings are the ones that are found** (`resolve_agreesWithSearch`): no traffic passes a node iff no
  edge is found to it or none from it, and both edges of a pairing are found between the node and its neighbours.
-/

namespace Roadside

variable {K : Type}

namespace RoadMap

/-- An edge that is listed at the node leads to the other one. -/
def IsNeighbor (map : RoadMap K) (node other : NodeId) : Prop := ∃ i ∈ map.incidences node, i.far = other

/-- What directions at a node have to do with the edges that are found to it and from it. -/
structure AgreesWithSearch (map : RoadMap K) (node : NodeId) (d : Directions) : Prop where
  impossible : d = .impossible ↔
    (∀ p : NodeId, map.findEdge? p node = none) ∨ ∀ q : NodeId, map.findEdge? node q = none
  pairing : ∀ s pairing, d.pairing? s = some pairing → ∃ p q, map.IsNeighbor node p ∧ map.IsNeighbor node q ∧
    map.findEdge? p node = some pairing.arrive ∧ map.findEdge? node q = some pairing.depart

/-! ## Finding edges -/

section Search

variable {map : RoadMap K} {node other : NodeId}

/-- An edge that is found is listed at the node where the search starts. -/
theorem exists_of_findEdge? {edge : EdgeId} (h : map.findEdge? node other = some edge) :
    ∃ i ∈ map.incidences node, i.far = other ∧ i.leaves map.allows = true ∧ i.edge = edge := by
  obtain ⟨i, found, rfl⟩ := Option.map_eq_some_iff.1 h
  have fit : i.far = other ∧ map.allows i.edge i.outward = true := by simpa using List.find?_some found
  exact ⟨i, List.mem_of_find?_eq_some found, fit.1, fit.2, rfl⟩

/-- Where an edge leads to the other node and may be left on, some edge is found. -/
theorem findEdge?_ne_none {i : Incidence K} (hi : i ∈ map.incidences node) (leave : i.leaves map.allows = true) :
    map.findEdge? node i.far ≠ none := by
  intro h
  rw [findEdge?, Option.map_eq_none_iff, List.find?_eq_none] at h
  exact h i hi (by simpa [Incidence.leaves] using leave)

/-- If all that lead to the other node are one edge, it is the one that is found. -/
theorem findEdge?_eq_some {i : Incidence K} (hi : i ∈ map.incidences node) (leave : i.leaves map.allows = true)
    (others : ∀ j ∈ map.incidences node, j.far = i.far → j.edge = i.edge) :
    map.findEdge? node i.far = some i.edge := by
  obtain ⟨edge, found⟩ := Option.ne_none_iff_exists'.1 (findEdge?_ne_none hi leave)
  obtain ⟨j, hj, far, -, rfl⟩ := exists_of_findEdge? found
  rw [found, others j hj far]

theorem findEdge?_eq_none_iff_leaves :
    (∀ q : NodeId, map.findEdge? node q = none) ↔ ∀ i ∈ map.incidences node, i.leaves map.allows = false := by
  constructor
  · intro none i hi
    exact Bool.eq_false_iff.2 fun leave => findEdge?_ne_none hi leave (none i.far)
  · intro shut q
    by_contra found
    obtain ⟨edge, found⟩ := Option.ne_none_iff_exists'.1 found
    obtain ⟨i, hi, -, leave, -⟩ := exists_of_findEdge? found
    simp [shut i hi] at leave

/-! An edge on which traffic arrives is looked for at its other end. -/

variable (mirrored : map.Mirrored)
include mirrored

theorem findEdge?_eq_none_iff_arrives :
    (∀ p : NodeId, map.findEdge? p node = none) ↔ ∀ i ∈ map.incidences node, i.arrives map.allows = false := by
  constructor
  · intro none i hi
    obtain ⟨j, hj, edge, rfl, outward⟩ := mirrored node i hi
    rw [Incidence.arrives, ← edge, ← outward]
    exact Bool.eq_false_iff.2 fun leave => findEdge?_ne_none hj leave (none i.far)
  · intro shut p
    by_contra found
    obtain ⟨edge, found⟩ := Option.ne_none_iff_exists'.1 found
    obtain ⟨j, hj, rfl, leave, -⟩ := exists_of_findEdge? found
    obtain ⟨i, hi, edge, -, outward⟩ := mirrored p j hj
    have arrive : i.arrives map.allows = true := by
      rwa [Incidence.arrives, Incidence.inward, outward, Incidence.inward, Travel.reverse_reverse, edge]
    simp [shut i hi] at arrive

/-- At a node whose edges lead to different nodes, an edge on which traffic arrives is found from its other end. -/
theorem findEdge?_far_eq_some (sparse : ¬Crowded (map.incidences node)) {x : Incidence K}
    (hx : x ∈ map.incidences node) (arrive : x.arrives map.allows = true) :
    map.findEdge? x.far node = some x.edge := by
  obtain ⟨j, hj, edge, rfl, outward⟩ := mirrored node x hx
  have leave : j.leaves map.allows = true := by rwa [Incidence.leaves, edge, outward]
  rw [← edge]
  refine findEdge?_eq_some hj leave fun j' hj' far => ?_
  -- another edge from there would be listed here, and lead to the same node
  obtain ⟨i, hi, edge', same, -⟩ := mirrored x.far j' hj'
  rw [far] at hi
  rw [edge, ← edge', eq_of_far_eq sparse hi hx same]

end Search

/-! ## Setting access -/

/-- The map with other access to some of its edges, one after the other. -/
def setAll? (map : RoadMap K) (changes : List (EdgeId × Access)) : Option (RoadMap K) :=
  changes.foldlM (fun map (edge, access) => map.setAccess? edge access) map

theorem exists_of_setAccess? {map map' : RoadMap K} {edge : EdgeId} {access : Access}
    (h : map.setAccess? edge access = some map') : ∃ access, map' = { map with access } := by
  unfold setAccess? at h
  split at h
  case isTrue => exact ⟨_, (Option.some.inj h).symm⟩
  case isFalse => cases h

/-- Setting access changes nothing but access. -/
theorem exists_of_setAll? {map map' : RoadMap K} {changes : List (EdgeId × Access)}
    (h : map.setAll? changes = some map') : ∃ access, map' = { map with access } := by
  induction changes generalizing map with
  | nil => exact ⟨map.access, (Option.some.inj h).symm⟩
  | cons change changes ih =>
    rw [setAll?, List.foldlM_cons, Option.bind_eq_bind, Option.bind_eq_some_iff] at h
    obtain ⟨next, first, rest⟩ := h
    obtain ⟨access, rfl⟩ := ih rest
    obtain ⟨_, rfl⟩ := exists_of_setAccess? first
    exact ⟨access, rfl⟩

end RoadMap

/-! ## Directions -/

theorem Resolves.agreesWithSearch {map : RoadMap K} {node : NodeId} {side : Incidence K → Side} {d : Directions}
    (h : Resolves map.allows side (map.incidences node) d) (mirrored : map.Mirrored) : map.AgreesWithSearch node d := by
  constructor
  case impossible =>
    rw [h.impossible_iff, not_flows_iff, RoadMap.findEdge?_eq_none_iff_arrives mirrored,
      RoadMap.findEdge?_eq_none_iff_leaves]
  case pairing =>
    intro s pairing hp
    cases h with
    | impossible | unrestricted => cases hp
    | restricted sparse pairs =>
      obtain ⟨x, hx, y, hy, arrive, leave, rfl, -⟩ := pairs.exists_of_pairing? sparse hp
      have others : ∀ j ∈ map.incidences node, j.far = y.far → j.edge = y.edge :=
        fun j hj same => congrArg Incidence.edge (eq_of_far_eq sparse hj hy same)
      exact ⟨x.far, y.far, ⟨x, hx, rfl⟩, ⟨y, hy, rfl⟩, RoadMap.findEdge?_far_eq_some mirrored sparse hx arrive,
        RoadMap.findEdge?_eq_some hy leave others⟩

/-- **Directions and the search for edges agree**: whatever a script makes and whatever access its edges are given
later, a node has directions for every query on the globe, and what they say of its edges is what is found. -/
theorem resolve_agreesWithSearch [Scalar K] {script : List (Step K)} {changes : List (EdgeId × Access)}
    {map : RoadMap K} (made : (mapOf script).setAll? changes = some map) (fits : (mapOf script).Fits)
    (rule : SideRule K) {node : NodeId} (known : node.index < map.nodeCount) {query : Point K}
    (onGlobe : query.isOnGlobe = true) :
    ∃ d, resolve map.view map.allows rule node query = .ok d ∧ map.AgreesWithSearch node d := by
  obtain ⟨access, rfl⟩ := RoadMap.exists_of_setAll? made
  have mirrored : (mapOf script).Mirrored := Draft.mirrored_build (Draft.size_segments_le fits)
  obtain ⟨position, known⟩ := RoadMap.exists_position? known
  obtain ⟨d, answer, resolves⟩ := exists_resolves _ rule onGlobe known
  exact ⟨d, answer, resolves.agreesWithSearch mirrored⟩

/-- A road around a corner; its second half is stored toward the corner, and it is shut. -/
def shutCorner : List (Step Rat) :=
  [.node ⟨0, 0⟩, .node ⟨0, 1⟩, .node ⟨1, 1⟩, .segment (.straight ⟨0⟩ ⟨1⟩ .both),
    .segment (.straight ⟨2⟩ ⟨1⟩ .closed)]

/-- The second half is opened away from the corner. -/
theorem resolve_agreesWithSearch_openedCorner :
    let map : RoadMap Rat := { mapOf shutCorner with access := #[.both, .backwardOnly] }
    (mapOf shutCorner).setAll? [(⟨1⟩, .both), (⟨1⟩, .backwardOnly)] = some map ∧ (mapOf shutCorner).Fits ∧
      (⟨1⟩ : NodeId).index < map.nodeCount ∧ (⟨1, 0⟩ : Point Rat).isOnGlobe = true ∧
      ∃ d, resolve map.view map.allows .standard ⟨1⟩ ⟨1, 0⟩ = .ok d ∧ map.AgreesWithSearch ⟨1⟩ d := by
  intro map
  have made : (mapOf shutCorner).setAll? [(⟨1⟩, .both), (⟨1⟩, .backwardOnly)] = some map := by decide +kernel
  have fits : (mapOf shutCorner).Fits := by decide +kernel
  have known : (⟨1⟩ : NodeId).index < map.nodeCount := by decide +kernel
  have onGlobe : (⟨1, 0⟩ : Point Rat).isOnGlobe = true := by decide +kernel
  exact ⟨made, fits, known, onGlobe, resolve_agreesWithSearch made fits .standard known onGlobe⟩

end Roadside
