import Roadside.Proofs.Layout

/-!
# Pairings are passages

A passage through a node leads in on one of its listed edges and out on another one, each open in that direction.

* **Pairings are passages and passages are pairings** (`resolve_pairsExactly`): if directions restrict the edges at
  all, then either two edges are usable and the pairings are the passages, one on each side or the only one on one
  side, or one edge is usable and serves both purposes on both sides.
-/

namespace Roadside

variable {K : Type}

/-- The pairing leads in on one listed edge and out on another one, each open in that direction. -/
def IsPassage (allows : Openness) (listed : List (Incidence K)) (p : Pairing) : Prop :=
  ∃ (i j : Nat) (x y : Incidence K), i ≠ j ∧ listed[i]? = some x ∧ listed[j]? = some y ∧ x.arrives allows = true ∧
    y.leaves allows = true ∧ p = ⟨x.edge, y.edge⟩

/-- Two listed edges make two passages at most. -/
theorem isPassage_pair {allows : Openness} {a b : Incidence K} {p : Pairing} :
    IsPassage allows [a, b] p ↔
      (a.arrives allows = true ∧ b.leaves allows = true ∧ p = ⟨a.edge, b.edge⟩) ∨
      (b.arrives allows = true ∧ a.leaves allows = true ∧ p = ⟨b.edge, a.edge⟩) := by
  constructor
  · rintro ⟨i, j, x, y, ne, hx, hy, arrive, leave, rfl⟩
    match i, j with
    | 0, 0 | 1, 1 => exact absurd rfl ne
    | 0, 1 => cases hx; cases hy; exact .inl ⟨arrive, leave, rfl⟩
    | 1, 0 => cases hx; cases hy; exact .inr ⟨arrive, leave, rfl⟩
    | i + 2, _ => simp at hx
    | _, j + 2 => simp at hy
  · rintro (⟨arrive, leave, rfl⟩ | ⟨arrive, leave, rfl⟩)
    · exact ⟨0, 1, a, b, by decide, rfl, rfl, arrive, leave, rfl⟩
    · exact ⟨1, 0, b, a, by decide, rfl, rfl, arrive, leave, rfl⟩

/-- What the pairings in directions have to do with the listed edges of a node. -/
structure PairsExactly (allows : Openness) (listed : List (Incidence K)) (d : Directions) : Prop where
  /-- Two usable edges are all edges, and their passages are the pairings: both of them, one on each side, or one. -/
  through : 2 ≤ listed.countP (·.isUsable allows) → ∃ a b, listed = [a, b] ∧
    (∀ p, (∃ s, d.pairing? s = some p) ↔ IsPassage allows listed p) ∧
    if a.arrives allows ∧ b.leaves allows ∧ b.arrives allows ∧ a.leaves allows then ∃ p, d = .both p p.reverse
    else ∃ s p, d = .only s p
  /-- One usable edge serves both purposes on both sides. -/
  uTurn : ∀ u, listed.filter (·.isUsable allows) = [u] →
    u.arrives allows = true ∧ u.leaves allows = true ∧ d = .both (.uTurn u.edge) (.uTurn u.edge)
  /-- Edges that are asked for are open in the direction they are asked for. -/
  demands :
    (∀ preference e, d.arrival preference = .exactly e → ∃ i ∈ listed, i.edge = e ∧ i.arrives allows = true) ∧
    ∀ preference e, d.departure preference = .exactly e → ∃ i ∈ listed, i.edge = e ∧ i.leaves allows = true

/-! ## Demands name edges of pairings -/

/-- If every pairing leads in and out on listed edges that are open so, then so does every edge that is asked for. -/
theorem demands_of_pairings {allows : Openness} {listed : List (Incidence K)} {d : Directions}
    (h : ∀ s p, d.pairing? s = some p → ∃ x ∈ listed, ∃ y ∈ listed, x.arrives allows = true ∧
      y.leaves allows = true ∧ p = ⟨x.edge, y.edge⟩) :
    (∀ preference e, d.arrival preference = .exactly e → ∃ i ∈ listed, i.edge = e ∧ i.arrives allows = true) ∧
    ∀ preference e, d.departure preference = .exactly e → ∃ i ∈ listed, i.edge = e ∧ i.leaves allows = true := by
  constructor
  · intro preference e he
    obtain ⟨s, p, -, hp, rfl⟩ := Directions.demand_eq_exactly_iff.1 he
    obtain ⟨x, hx, y, _, arrive, _, rfl⟩ := h s p hp
    exact ⟨x, hx, rfl, arrive⟩
  · intro preference e he
    obtain ⟨s, p, -, hp, rfl⟩ := Directions.demand_eq_exactly_iff.1 he
    obtain ⟨x, _, y, hy, _, leave, rfl⟩ := h s p hp
    exact ⟨y, hy, rfl, leave⟩

/-! ## The layouts that restrict -/

section Layouts

variable {allows : Openness}

/-- Two edges that are both usable: it is enough to know the pairings and their number. -/
theorem pairsExactly_pair {a b : Incidence K} {d : Directions} (ha : a.isUsable allows = true)
    (hb : b.isUsable allows = true) (pairings : ∀ p, (∃ s, d.pairing? s = some p) ↔ IsPassage allows [a, b] p)
    (number : if a.arrives allows ∧ b.leaves allows ∧ b.arrives allows ∧ a.leaves allows then ∃ p, d = .both p p.reverse
      else ∃ s p, d = .only s p) : PairsExactly allows [a, b] d := by
  have listed : ∀ s p, d.pairing? s = some p → ∃ x ∈ [a, b], ∃ y ∈ [a, b], x.arrives allows = true ∧
      y.leaves allows = true ∧ p = ⟨x.edge, y.edge⟩ := by
    intro s p hp
    obtain ⟨i, j, x, y, _, hx, hy, arrive, leave, rfl⟩ := (pairings p).1 ⟨s, hp⟩
    exact ⟨x, List.mem_of_getElem? hx, y, List.mem_of_getElem? hy, arrive, leave, rfl⟩
  refine ⟨fun _ => ⟨a, b, rfl, pairings, number⟩, fun u hu => ?_, demands_of_pairings listed⟩
  simp [ha, hb] at hu

theorem pairsExactly_twoWay {a b : Incidence K} (side : Side) (aBoth : (a.arm allows).usage = .both)
    (bBoth : (b.arm allows).usage = .both) :
    PairsExactly allows [a, b] (.paired side ⟨a.edge, b.edge⟩ ⟨b.edge, a.edge⟩) := by
  rw [Usage.eq_both_iff] at aBoth bBoth
  obtain ⟨arriveA, leaveA⟩ : a.arrives allows = true ∧ a.leaves allows = true := aBoth
  obtain ⟨arriveB, leaveB⟩ : b.arrives allows = true ∧ b.leaves allows = true := bBoth
  refine pairsExactly_pair (by simp [Incidence.isUsable, arriveA]) (by simp [Incidence.isUsable, arriveB]) ?_ ?_
  · intro p
    rw [isPassage_pair]
    constructor
    · rintro ⟨s, hs⟩
      cases side <;> cases s <;> cases hs <;> simp [arriveA, leaveA, arriveB, leaveB]
    · rintro (⟨-, -, rfl⟩ | ⟨-, -, rfl⟩)
      · exact ⟨side, Directions.pairing?_paired ..⟩
      · exact ⟨side.opposite, Directions.pairing?_paired_opposite ..⟩
  · rw [if_pos ⟨arriveA, leaveB, arriveB, leaveA⟩]
    cases side
    · exact ⟨⟨a.edge, b.edge⟩, rfl⟩
    · exact ⟨⟨b.edge, a.edge⟩, rfl⟩

/-- One passage only, from `a` to `b`; the list may name the two in either order. -/
theorem pairsExactly_oneWay {a b : Incidence K} {listed : List (Incidence K)} (side : Side)
    (hl : listed = [a, b] ∨ listed = [b, a]) (arrive : a.arrives allows = true) (leave : b.leaves allows = true)
    (single : ¬(b.arrives allows = true ∧ a.leaves allows = true)) :
    PairsExactly allows listed (.only side ⟨a.edge, b.edge⟩) := by
  have ha : a.isUsable allows = true := by simp [Incidence.isUsable, arrive]
  have hb : b.isUsable allows = true := by simp [Incidence.isUsable, leave]
  have pairing : ∀ p, (∃ s, (Directions.only side ⟨a.edge, b.edge⟩).pairing? s = some p) ↔ p = ⟨a.edge, b.edge⟩ := by
    intro p
    constructor
    · rintro ⟨s, hs⟩
      cases side <;> cases s <;> cases hs <;> rfl
    · rintro rfl
      exact ⟨side, Directions.pairing?_only ..⟩
  rcases hl with rfl | rfl
  · refine pairsExactly_pair ha hb (fun p => ?_) ?_
    · rw [pairing, isPassage_pair]
      grind
    · rw [if_neg fun h => single ⟨h.2.2.1, h.2.2.2⟩]
      exact ⟨side, _, rfl⟩
  · refine pairsExactly_pair hb ha (fun p => ?_) ?_
    · rw [pairing, isPassage_pair]
      grind
    · rw [if_neg fun h => single ⟨h.1, h.2.1⟩]
      exact ⟨side, _, rfl⟩

theorem pairsExactly_deadEnd {u : Incidence K} {listed : List (Incidence K)}
    (alone : listed.filter (·.isUsable allows) = [u]) (both : (u.arm allows).usage = .both) :
    PairsExactly allows listed (.both (.uTurn u.edge) (.uTurn u.edge)) := by
  obtain ⟨arrive, leave⟩ : u.arrives allows = true ∧ u.leaves allows = true := Usage.eq_both_iff.1 both
  have hu : u ∈ listed := (List.mem_filter.1 (alone ▸ List.mem_singleton_self u)).1
  have pairings : ∀ s p, (Directions.both (.uTurn u.edge) (.uTurn u.edge)).pairing? s = some p →
      ∃ x ∈ listed, ∃ y ∈ listed, x.arrives allows = true ∧ y.leaves allows = true ∧ p = ⟨x.edge, y.edge⟩ := by
    intro s p hp
    cases s <;> cases hp <;> exact ⟨u, hu, u, hu, arrive, leave, rfl⟩
  refine ⟨fun two => ?_, fun v hv => ?_, demands_of_pairings pairings⟩
  · rw [List.countP_eq_length_filter, alone] at two
    simp at two
  · obtain rfl : u = v := by simpa [alone] using hv
    exact ⟨arrive, leave, rfl⟩

end Layouts

/-! ## Resolutions -/

/-- **Pairings are passages**: directions that restrict the edges at a node pair exactly those that traffic can pass
between, and the edges they ask for are open in the direction they are asked for. -/
theorem resolve_pairsExactly [Scalar K] {view : RoadView K} {allows : Openness} {rule : SideRule K} {node : NodeId}
    {query : Point K} {d : Directions} (h : resolve view allows rule node query = .ok d)
    (restricted : d.isRestricted = true) : PairsExactly allows (view.incidences node) d := by
  obtain ⟨-, position, -, rfl⟩ := resolve_eq_ok_iff.1 h
  have laid := (view.neighborhood allows node position).laidOut_layout
  unfold Neighborhood.directions at restricted ⊢
  generalize (view.neighborhood allows node position).layout = l at laid restricted ⊢
  cases laid with
  | closed => cases restricted
  | free => cases restricted
  | deadEnd arm alone both =>
    rw [RoadView.neighborhood, List.filter_map] at alone
    obtain ⟨u, hu, rfl⟩ := List.map_eq_singleton_iff.1 alone
    exact pairsExactly_deadEnd hu both
  | oneWay a b arms _ arrive leave single =>
    simp only [RoadView.neighborhood, List.map_eq_cons_iff, List.map_eq_nil_iff] at arms
    rcases arms with ⟨x, _, hl, rfl, y, _, rfl, rfl, rfl⟩ | ⟨y, _, hl, rfl, x, _, rfl, rfl, rfl⟩
    · exact pairsExactly_oneWay _ (.inl hl) arrive leave single
    · exact pairsExactly_oneWay _ (.inr hl) arrive leave single
  | twoWay a b arms _ first second =>
    simp only [RoadView.neighborhood, List.map_eq_cons_iff, List.map_eq_nil_iff] at arms
    obtain ⟨x, _, hl, rfl, y, _, rfl, rfl, rfl⟩ := arms
    rw [hl]
    exact pairsExactly_twoWay _ first second

/-- A bend in a road whose second edge is one-way, away from the bend. -/
def oneWayBend : RoadView Rat where
  position? node := if node = ⟨1⟩ then some ⟨0, 0⟩ else none
  incidences _ := [⟨⟨0⟩, ⟨0⟩, .backward, ⟨0, -1⟩⟩, ⟨⟨1⟩, ⟨2⟩, .forward, ⟨1, 0⟩⟩]

/-- At the bend there is one passage, from the first edge to the second. -/
theorem resolve_pairsExactly_oneWayBend :
    let allows : Openness := fun edge travel => edge = ⟨0⟩ || travel = .forward
    let d : Directions := .only .left ⟨⟨0⟩, ⟨1⟩⟩
    resolve oneWayBend allows .standard ⟨1⟩ ⟨1, 0⟩ = .ok d ∧ d.isRestricted = true ∧
      PairsExactly allows (oneWayBend.incidences ⟨1⟩) d := by
  intro allows d
  have answer : resolve oneWayBend allows .standard ⟨1⟩ ⟨1, 0⟩ = .ok d :=
    resolve_eq_ok_iff.2 ⟨by decide +kernel, ⟨0, 0⟩, rfl, by decide +kernel⟩
  exact ⟨answer, rfl, resolve_pairsExactly answer rfl⟩

end Roadside
