import Roadside.Proofs.Decision
import Roadside.Proofs.InRange

/-!
# Loops

An edge that leads from a node back to it is listed there twice, so a node with a loop has at least two edges, and if it
has no more, then both lead to the same neighbour. The two entries have opposite directions: where the loop is open one
way, traffic may leave on the one entry and arrive on the other one.

* **A loop crowds its node** (`crowded_of_isLoop`), so that no edge is ruled out there.
* **Traffic flows through a loop** that is open in some direction, or else through other edges (`flows_iff`).
* **A node with a loop is free or shut** (`resolve_decidedAtLoop`): it is shut iff its loops are and its other edges do
  not let traffic arrive and depart.
-/

namespace Roadside

variable {K : Type}

namespace RoadMap

/-- The edge leads from the node back to it. -/
def IsLoop (map : RoadMap K) (node : NodeId) (loop : EdgeId) : Prop := map.ends? loop = some ⟨node, node⟩

instance (map : RoadMap K) (node : NodeId) (loop : EdgeId) : Decidable (map.IsLoop node loop) :=
  inferInstanceAs (Decidable (map.ends? loop = some ⟨node, node⟩))

/-- Some loop of the node is open in some direction. -/
def HasOpenLoop (map : RoadMap K) (allows : Openness) (node : NodeId) : Prop :=
  ∃ loop t, map.IsLoop node loop ∧ allows loop t = true

/-- Traffic may arrive at the node from a different one. -/
def HasArrival (map : RoadMap K) (allows : Openness) (node : NodeId) : Prop :=
  ∃ edge ends t, map.ends? edge = some ends ∧ ends.source t ≠ node ∧ ends.target t = node ∧ allows edge t = true

/-- Traffic may depart from the node to a different one. -/
def HasDeparture (map : RoadMap K) (allows : Openness) (node : NodeId) : Prop :=
  ∃ edge ends t, map.ends? edge = some ends ∧ ends.source t = node ∧ ends.target t ≠ node ∧ allows edge t = true

/-- What the directions are at a node with loops. -/
structure DecidedAtLoop (map : RoadMap K) (allows : Openness) (node : NodeId) (d : Directions) : Prop where
  unrestricted_or_impossible : d = .unrestricted ∨ d = .impossible
  /-- One direction of one loop is enough. -/
  unrestricted : ∀ loop t, map.IsLoop node loop → allows loop t = true → d = .unrestricted
  impossible : d = .impossible ↔ (∀ loop t, map.IsLoop node loop → allows loop t = false) ∧
    ¬(map.HasArrival allows node ∧ map.HasDeparture allows node)

/-! ## What is listed at a node with loops -/

section Listed

variable {map : RoadMap K} {node : NodeId}

/-- An edge that leads from the node to the node in one direction does so in the other one. -/
theorem isLoop_of_source_target {edge : EdgeId} {ends : Ends} (known : map.ends? edge = some ends) {t : Travel}
    (source : ends.source t = node) (target : ends.target t = node) : map.IsLoop node edge := by
  have ends_eq : ends = ⟨node, node⟩ := by
    obtain ⟨start, finish⟩ := ends
    cases t with
    | forward => exact congrArg₂ Ends.mk source target
    | backward => exact congrArg₂ Ends.mk target source
  rw [IsLoop, known, ends_eq]

theorem not_hasOpenLoop_iff {allows : Openness} :
    ¬map.HasOpenLoop allows node ↔ ∀ loop t, map.IsLoop node loop → allows loop t = false := by
  constructor
  · intro none loop t isLoop
    exact Bool.eq_false_iff.2 fun isOpen => none ⟨loop, t, isLoop, isOpen⟩
  · rintro shut ⟨loop, t, isLoop, isOpen⟩
    exact Bool.eq_false_iff.1 (shut loop t isLoop) isOpen

variable (lists : map.ListsEnds)
include lists

/-- Two of the listed edges lead back to the node: the two directions of the loop. -/
theorem crowded_of_isLoop {loop : EdgeId} (isLoop : map.IsLoop node loop) : Crowded (map.incidences node) := by
  obtain ⟨i, hi, -, far, forward⟩ := (lists node node loop .forward).2 ⟨_, isLoop, rfl, rfl⟩
  obtain ⟨j, hj, -, far', backward⟩ := (lists node node loop .backward).2 ⟨_, isLoop, rfl, rfl⟩
  by_contra sparse
  obtain rfl : i = j := eq_of_far_eq sparse hi hj (far.trans far'.symm)
  cases forward.symm.trans backward

variable {allows : Openness}

/-- Traffic arrives on an open loop, in the direction in which it is open, or from a different node. -/
theorem exists_arrives_iff : (∃ i ∈ map.incidences node, i.arrives allows = true) ↔
    map.HasOpenLoop allows node ∨ map.HasArrival allows node := by
  refine (lists.exists_iff (p := fun edge _ t => allows edge t.reverse = true)).trans ?_
  constructor
  · rintro ⟨edge, ends, t, known, source, isOpen⟩
    by_cases target : ends.target t = node
    · exact .inl ⟨edge, t.reverse, isLoop_of_source_target known source target, isOpen⟩
    · exact .inr ⟨edge, ends, t.reverse, known, by rwa [Ends.source_reverse], source, isOpen⟩
  · rintro (⟨loop, t, isLoop, isOpen⟩ | ⟨edge, ends, t, known, -, target, isOpen⟩)
    · exact ⟨loop, ⟨node, node⟩, t.reverse, isLoop, by cases t <;> rfl, by rwa [Travel.reverse_reverse]⟩
    · exact ⟨edge, ends, t.reverse, known, by rwa [Ends.source_reverse], by rwa [Travel.reverse_reverse]⟩

theorem exists_leaves_iff : (∃ i ∈ map.incidences node, i.leaves allows = true) ↔
    map.HasOpenLoop allows node ∨ map.HasDeparture allows node := by
  refine (lists.exists_iff (p := fun edge _ t => allows edge t = true)).trans ?_
  constructor
  · rintro ⟨edge, ends, t, known, source, isOpen⟩
    by_cases target : ends.target t = node
    · exact .inl ⟨edge, t, isLoop_of_source_target known source target, isOpen⟩
    · exact .inr ⟨edge, ends, t, known, source, target, isOpen⟩
  · rintro (⟨loop, t, isLoop, isOpen⟩ | ⟨edge, ends, t, known, source, -, isOpen⟩)
    · exact ⟨loop, ⟨node, node⟩, t, isLoop, by cases t <;> rfl, isOpen⟩
    · exact ⟨edge, ends, t, known, source, isOpen⟩

/-- Traffic that arrives on a loop may leave on it as well, so one open loop is enough. -/
theorem flows_iff : Flows allows (map.incidences node) ↔
    map.HasOpenLoop allows node ∨ map.HasArrival allows node ∧ map.HasDeparture allows node := by
  rw [Flows, exists_arrives_iff lists, exists_leaves_iff lists, or_and_left]

end Listed

end RoadMap

/-! ## Directions -/

theorem Resolves.decidedAtLoop {map : RoadMap K} {allows : Openness} {node : NodeId} {side : Incidence K → Side}
    {d : Directions} (h : Resolves allows side (map.incidences node) d) (lists : map.ListsEnds) {loop : EdgeId}
    (isLoop : map.IsLoop node loop) : map.DecidedAtLoop allows node d := by
  have crowded := RoadMap.crowded_of_isLoop lists isLoop
  constructor
  case unrestricted_or_impossible =>
    cases h with
    | impossible => exact .inr rfl
    | unrestricted => exact .inl rfl
    | restricted sparse => exact absurd crowded sparse
  case unrestricted =>
    intro loop t isLoop isOpen
    exact h.unrestricted_iff.2 ⟨(RoadMap.flows_iff lists).2 (.inl ⟨loop, t, isLoop, isOpen⟩), crowded⟩
  case impossible => rw [h.impossible_iff, RoadMap.flows_iff lists, not_or, RoadMap.not_hasOpenLoop_iff]

/-- **A node with a loop is free or shut**: on a map that a script makes, whatever edges are open, a node to which an
edge leads back has directions for every query on the globe, and they never rule an edge out. -/
theorem resolve_decidedAtLoop [Scalar K] {script : List (Step K)} (fits : (mapOf script).Fits) (allows : Openness)
    (rule : SideRule K) {node : NodeId} {loop : EdgeId} (isLoop : (mapOf script).IsLoop node loop) {query : Point K}
    (onGlobe : query.isOnGlobe = true) :
    ∃ d, resolve (mapOf script).view allows rule node query = .ok d ∧ (mapOf script).DecidedAtLoop allows node d := by
  have known : node.index < (mapOf script).nodeCount :=
    (linked_mapOf script).nodes ⟨node, node⟩ (Array.mem_of_getElem? isLoop) .forward
  obtain ⟨position, known⟩ := RoadMap.exists_position? known
  obtain ⟨d, answer, resolves⟩ := exists_resolves allows rule onGlobe known
  exact ⟨d, answer, resolves.decidedAtLoop (Draft.listsEnds_build (Draft.size_segments_le fits)) isLoop⟩

/-- A one-way street that leads to a square, and a one-way road around the square. -/
def marketSquare : List (Step Rat) :=
  [.node ⟨0, 0⟩, .node ⟨0, 1⟩, .segment (.straight ⟨0⟩ ⟨1⟩ .forwardOnly),
    .segment ⟨⟨⟨1⟩, ⟨1⟩⟩, .backwardOnly, [⟨0, 2⟩, ⟨1, 2⟩]⟩]

theorem resolve_decidedAtLoop_marketSquare :
    (mapOf marketSquare).Fits ∧ (mapOf marketSquare).IsLoop ⟨1⟩ ⟨1⟩ ∧ (⟨1, 1⟩ : Point Rat).isOnGlobe = true ∧
      ∃ d, resolve (mapOf marketSquare).view (mapOf marketSquare).allows .standard ⟨1⟩ ⟨1, 1⟩ = .ok d ∧
        (mapOf marketSquare).DecidedAtLoop (mapOf marketSquare).allows ⟨1⟩ d := by
  have fits : (mapOf marketSquare).Fits := by decide +kernel
  have isLoop : (mapOf marketSquare).IsLoop ⟨1⟩ ⟨1⟩ := by decide +kernel
  have onGlobe : (⟨1, 1⟩ : Point Rat).isOnGlobe = true := by decide +kernel
  exact ⟨fits, isLoop, onGlobe, resolve_decidedAtLoop fits (mapOf marketSquare).allows .standard isLoop onGlobe⟩

/-- By the street traffic may only arrive, but it may go around the square, unless the road there is shut. -/
example :
    let map := mapOf marketSquare
    let shut := map.allows.shut [(⟨1⟩, .backward)]
    (map.view.neighborhood map.allows ⟨1⟩ ⟨0, 1⟩).directions .standard ⟨1, 1⟩ = .unrestricted ∧
      (map.view.neighborhood shut ⟨1⟩ ⟨0, 1⟩).directions .standard ⟨1, 1⟩ = .impossible := by decide +kernel

end Roadside
