import Roadside.Proofs.Decision
import Roadside.Proofs.Incidences

/-!
# U-turns

A pairing of an edge with itself sends traffic back the way it came. On a map that a script makes this happens at dead
ends and nowhere else, because an edge is listed twice at one node only if it leads back there.

* **U-turns are for dead ends** (`resolve_turnsBackAtDeadEnds`): some pairing turns back iff the node is a dead end, and
  all pairings at any other node lead on, to a different neighbour.
-/

namespace Roadside

variable {K : Type}

/-- There are at most two edges, to different nodes, and `u` alone of them is usable, to arrive and to leave. -/
structure IsDeadEnd (allows : Openness) (listed : List (Incidence K)) (u : Incidence K) : Prop where
  few : listed.length ≤ 2
  apart : (listed.map (·.far)).Nodup
  alone : listed.filter (·.isUsable allows) = [u]
  arrive : u.arrives allows = true
  leave : u.leaves allows = true

/-- The directions at a node with these edges turn back at a dead end, and lead on everywhere else. -/
structure TurnsBackAtDeadEnds (allows : Openness) (listed : List (Incidence K)) (d : Directions) : Prop where
  turnsBack_iff : (∃ s p, d.pairing? s = some p ∧ p.arrive = p.depart) ↔ ∃ u, IsDeadEnd allows listed u
  /-- At a dead end all four edges of the pairings are the usable one. -/
  deadEnd : ∀ u, IsDeadEnd allows listed u → d = .both (.uTurn u.edge) (.uTurn u.edge)
  leadsOn : (¬∃ u, IsDeadEnd allows listed u) → ∀ s p, d.pairing? s = some p → p.arrive ≠ p.depart ∧
    ∃ x ∈ listed, ∃ y ∈ listed, x.edge = p.arrive ∧ y.edge = p.depart ∧ x.far ≠ y.far

section Cases

variable {allows : Openness} {side : Incidence K → Side} {listed : List (Incidence K)} {d : Directions}

theorem Resolves.eq_of_isDeadEnd (h : Resolves allows side listed d) {u : Incidence K}
    (deadEnd : IsDeadEnd allows listed u) : d = .both (.uTurn u.edge) (.uTurn u.edge) := by
  have hu := mem_of_alone deadEnd.alone
  have flows : Flows allows listed := ⟨⟨u, hu, deadEnd.arrive⟩, u, hu, deadEnd.leave⟩
  exact (h.pairs flows (not_crowded_iff.2 ⟨deadEnd.few, deadEnd.apart⟩)).eq_of_alone deadEnd.alone

/-- A pairing leads on to a different neighbour, unless the node is a dead end. -/
theorem Resolves.leadsOn_or_isDeadEnd (h : Resolves allows side listed d) {s : Side} {p : Pairing}
    (hp : d.pairing? s = some p) :
    (∃ x ∈ listed, ∃ y ∈ listed, x.edge = p.arrive ∧ y.edge = p.depart ∧ x.far ≠ y.far) ∨
      ∃ u, IsDeadEnd allows listed u := by
  cases h with
  | impossible | unrestricted => cases hp
  | restricted sparse pairs =>
    obtain ⟨x, hx, y, hy, arrive, leave, rfl, ⟨rfl, alone⟩ | apart⟩ := pairs.exists_of_pairing? sparse hp
    · obtain ⟨few, apart⟩ := not_crowded_iff.1 sparse
      exact .inr ⟨x, few, apart, alone, arrive, leave⟩
    · exact .inl ⟨x, hx, y, hy, rfl, rfl, apart⟩

theorem Resolves.turnsBackAtDeadEnds (h : Resolves allows side listed d)
    (loops : ∀ i ∈ listed, ∀ j ∈ listed, i.edge = j.edge → i.far = j.far) : TurnsBackAtDeadEnds allows listed d := by
  have leadsOn {p : Pairing} : (∃ x ∈ listed, ∃ y ∈ listed, x.edge = p.arrive ∧ y.edge = p.depart ∧ x.far ≠ y.far) →
      p.arrive ≠ p.depart := by
    rintro ⟨x, hx, y, hy, arrive, depart, apart⟩ same
    exact apart (loops x hx y hy (by rw [arrive, depart, same]))
  constructor
  case turnsBack_iff =>
    constructor
    · rintro ⟨s, p, hp, same⟩
      exact (h.leadsOn_or_isDeadEnd hp).resolve_left fun on => leadsOn on same
    · rintro ⟨u, deadEnd⟩
      obtain rfl := h.eq_of_isDeadEnd deadEnd
      exact ⟨.right, .uTurn u.edge, rfl, rfl⟩
  case deadEnd => exact fun u => h.eq_of_isDeadEnd
  case leadsOn =>
    intro other s p hp
    have on := (h.leadsOn_or_isDeadEnd hp).resolve_right other
    exact ⟨leadsOn on, on⟩

end Cases

/-- **U-turns are for dead ends**: on a map that a script makes, whatever edges are open, a node has directions for
every query on the globe; they turn back iff the node is a dead end, and elsewhere they lead on to a different neighbour. -/
theorem resolve_turnsBackAtDeadEnds [Scalar K] {script : List (Step K)} (fits : (mapOf script).Fits)
    (allows : Openness) (rule : SideRule K) {node : NodeId} (known : node.index < (mapOf script).nodeCount)
    {query : Point K} (onGlobe : query.isOnGlobe = true) :
    ∃ d, resolve (mapOf script).view allows rule node query = .ok d ∧
      TurnsBackAtDeadEnds allows ((mapOf script).incidences node) d := by
  obtain ⟨position, known⟩ := RoadMap.exists_position? known
  obtain ⟨d, answer, resolves⟩ := exists_resolves allows rule onGlobe known
  have numbered := Draft.size_segments_le fits
  exact ⟨d, answer, resolves.turnsBackAtDeadEnds fun i hi j hj => Draft.far_eq_of_edge_eq numbered hi hj⟩

/-- A street that goes on as a lane; the lane is shut by the predicate, not by the map. -/
def streetIntoLane : List (Step Rat) :=
  [.node ⟨0, 0⟩, .node ⟨0, 1⟩, .node ⟨0, 2⟩, .segment (.straight ⟨0⟩ ⟨1⟩ .both), .segment (.straight ⟨1⟩ ⟨2⟩ .both)]

theorem resolve_turnsBackAtDeadEnds_streetIntoLane :
    let allows := Openness.shut (mapOf streetIntoLane).allows [(⟨1⟩, .forward), (⟨1⟩, .backward)]
    (mapOf streetIntoLane).Fits ∧ (⟨1⟩ : NodeId).index < (mapOf streetIntoLane).nodeCount ∧
      (⟨1, 1⟩ : Point Rat).isOnGlobe = true ∧
      ∃ d, resolve (mapOf streetIntoLane).view allows .standard ⟨1⟩ ⟨1, 1⟩ = .ok d ∧
        TurnsBackAtDeadEnds allows ((mapOf streetIntoLane).incidences ⟨1⟩) d := by
  intro allows
  have fits : (mapOf streetIntoLane).Fits := by decide +kernel
  have known : (⟨1⟩ : NodeId).index < (mapOf streetIntoLane).nodeCount := by decide +kernel
  have onGlobe : (⟨1, 1⟩ : Point Rat).isOnGlobe = true := by decide +kernel
  exact ⟨fits, known, onGlobe, resolve_turnsBackAtDeadEnds fits allows .standard known onGlobe⟩

end Roadside
