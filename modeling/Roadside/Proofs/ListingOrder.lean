import Mathlib.Data.List.Permutation
import Roadside.Proofs.Decision

/-!
# The order in which edges are listed

A map may list the edges at a node in any order. The layout of the node does not depend on it, except that a two-way
road goes from the first arm to the second (`layout_perm`).

* **The order hardly matters** (`resolve_reordered`): listed in another order, the edges at a node give the same
  directions, unless they are the two halves of a two-way road. Then the half that is listed first tells the side, and
  the directions are the same iff its arriving traffic and that of the other half see the query on opposite sides;
  otherwise right and left are exchanged.
-/

namespace Roadside

variable {K : Type}

/-! ## Exchanging right and left -/

theorem Side.eq_of_ne_opposite {s t : Side} (h : s ≠ t.opposite) : s = t := by
  cases s <;> cases t <;> simp_all [opposite]

namespace Directions

/-- The directions with right and left exchanged. -/
def mirror : Directions → Directions
  | .impossible => .impossible
  | .unrestricted => .unrestricted
  | .both right left => .both left right
  | .only side pairing => .only side.opposite pairing

@[simp] theorem mirror_mirror (d : Directions) : d.mirror.mirror = d := by
  cases d <;> simp [mirror]

/-- The pairing of a side is found on the opposite side of the mirror image. -/
theorem pairing?_mirror (d : Directions) (s : Side) : d.mirror.pairing? s = d.pairing? s.opposite := by
  rcases d with _ | _ | _ | ⟨_ | _, _⟩ <;> cases s <;> rfl

@[simp] theorem paired_self (s : Side) (p : Pairing) : paired s p p = .both p p := by
  cases s <;> rfl

theorem mirror_paired (s : Side) (p q : Pairing) : (paired s p q).mirror = paired s q p := by
  cases s <;> rfl

/-- Placed the other way round, two different pairings are the same directions iff the sides are opposite. -/
theorem paired_swap_iff {s t : Side} {p q : Pairing} (different : p ≠ q) :
    paired t q p = paired s p q ↔ s = t.opposite := by
  cases s <;> cases t <;> simp [paired, Side.opposite, different, different.symm]

end Directions

/-! ## Layouts -/

/-- Two arms that let traffic arrive and leave are laid out in the same way in either order, unless both are open both
ways. -/
theorem Layout.ofPair_comm {a b : Arm K} (arrive : a.usage.arrive = true ∨ b.usage.arrive = true)
    (leave : a.usage.leave = true ∨ b.usage.leave = true) (single : ¬(a.usage = .both ∧ b.usage = .both)) :
    ofPair b a = ofPair a b := by
  obtain ⟨_, _, ⟨arriveA, leaveA⟩, _⟩ := a
  obtain ⟨_, _, ⟨arriveB, leaveB⟩, _⟩ := b
  cases arriveA <;> cases leaveA <;> cases arriveB <;> cases leaveB <;>
    simp_all [ofPair, Arm.isOpen, Usage.isOpen, Usage.both]

namespace Neighborhood

variable {n n' : Neighborhood K}

theorem layout_twoWay {a b : Arm K} (arms : n.arms = [a, b]) (apart : a.far ≠ b.far) (first : a.usage = .both)
    (second : b.usage = .both) : n.layout = .twoWay a b := by
  simp [layout, arrivals, departures, arms, apart, Layout.ofPair, Arm.isOpen, Usage.isOpen, first, second, Usage.both]

theorem layout_oneWay {x y : Arm K} (arms : n.arms = [x, y] ∨ n.arms = [y, x]) (apart : x.far ≠ y.far)
    (arrive : x.usage.arrive = true) (leave : y.usage.leave = true)
    (single : ¬(y.usage.arrive = true ∧ x.usage.leave = true)) : n.layout = .oneWay x y := by
  obtain ⟨_, _, ⟨arriveX, leaveX⟩, _⟩ := x
  obtain ⟨_, _, ⟨arriveY, leaveY⟩, _⟩ := y
  rcases arms with arms | arms <;> cases leaveX <;> cases arriveY <;>
    simp_all [layout, arrivals, departures, Ne.symm apart, Layout.ofPair, Arm.isOpen, Usage.isOpen, Usage.both]

/-- Three arms or more single out no pairing. -/
theorem layout_wide (h : 3 ≤ n.arms.length) :
    n.layout = if n.arrivals = 0 ∨ n.departures = 0 then .closed else .free := by
  rw [layout]
  match harms : n.arms with
  | [] | [_] | [_, _] => simp [harms] at h
  | _ :: _ :: _ :: _ => rfl

theorem layout_congr (arms : n'.arms = n.arms) : n'.layout = n.layout := by
  rw [layout, layout, arrivals, arrivals, departures, departures, arms]

/-- Two arms that change places keep the layout, unless they are the two halves of a two-way road. -/
theorem layout_swap {a b : Arm K} (arms : n.arms = [a, b]) (arms' : n'.arms = [b, a])
    (single : ¬(a.far ≠ b.far ∧ a.usage = .both ∧ b.usage = .both)) : n'.layout = n.layout := by
  have arrivals : n'.arrivals = n.arrivals := by
    rw [Neighborhood.arrivals, Neighborhood.arrivals, arms, arms']
    exact (List.Perm.swap a b []).countP_eq _
  have departures : n'.departures = n.departures := by
    rw [Neighborhood.departures, Neighborhood.departures, arms, arms']
    exact (List.Perm.swap a b []).countP_eq _
  rw [layout, layout, arrivals, departures, arms, arms']
  split
  case isTrue => rfl
  case isFalse flows =>
    simp only [arrivals_eq_zero, departures_eq_zero, arms, List.forall_mem_cons, List.not_mem_nil, not_or] at flows
    by_cases same : a.far = b.far
    · simp only [same, if_true]
    · simp only [same, Ne.symm same, if_false]
      exact Layout.ofPair_comm (by grind) (by grind) fun both => single ⟨same, both⟩

/-- In whatever order the arms are listed, the layout is the same, unless two of them change places that are the two
halves of a two-way road. -/
theorem layout_perm (perm : n'.arms.Perm n.arms) : n'.layout = n.layout ∨
    ∃ a b, n.arms = [a, b] ∧ n'.arms = [b, a] ∧ a.far ≠ b.far ∧ a.usage = .both ∧ b.usage = .both := by
  match arms : n.arms with
  | [] =>
    rw [arms, List.perm_nil] at perm
    exact .inl (layout_congr (perm.trans arms.symm))
  | [a] =>
    rw [arms, List.perm_singleton] at perm
    exact .inl (layout_congr (perm.trans arms.symm))
  | [a, b] =>
    rw [arms, List.perm_pair] at perm
    rcases perm with same | swapped
    · exact .inl (layout_congr (same.trans arms.symm))
    · by_cases road : a.far ≠ b.far ∧ a.usage = .both ∧ b.usage = .both
      · exact .inr ⟨a, b, rfl, swapped, road⟩
      · exact .inl (layout_swap arms swapped road)
  | a :: b :: c :: more =>
    have wide : 3 ≤ n.arms.length := by simp [arms]
    rw [layout_wide wide, layout_wide (perm.length_eq ▸ wide), arrivals, departures, perm.countP_eq, perm.countP_eq]
    exact .inl rfl

end Neighborhood

/-! ## Directions -/

/-- The two views list the same edges at a node that lies in the same place, in whatever order. -/
structure RoadView.Reordered (view view' : RoadView K) (node : NodeId) : Prop where
  position : view'.position? node = view.position? node
  perm : (view'.incidences node).Perm (view.incidences node)

/-- The two halves of a two-way road: different edges to different nodes, both open both ways. -/
structure IsTwoWay (allows : Openness) (a b : Incidence K) : Prop where
  apart : a.far ≠ b.far
  distinct : a.edge ≠ b.edge
  first : a.arrives allows = true ∧ a.leaves allows = true
  second : b.arrives allows = true ∧ b.leaves allows = true

/-- What the order in which the edges at a node are listed does to the directions there. -/
structure OrderTells [Scalar K] (view view' : RoadView K) (allows : Openness) (rule : SideRule K) (node : NodeId)
    (query : Point K) : Prop where
  /-- Unless the edges are the two halves of a two-way road, and are listed the other way round, nothing. -/
  same : ((¬∃ a b, view.incidences node = [a, b] ∧ IsTwoWay allows a b) ∨
      view'.incidences node = view.incidences node) →
    resolve view' allows rule node query = resolve view allows rule node query
  /-- The two halves of a two-way road give the same directions in either order iff they put the query on opposite
  sides, and otherwise right and left are exchanged. -/
  twoWay : ∀ position, view.position? node = some position → query.isOnGlobe = true →
    ∀ a b, view.incidences node = [a, b] → view'.incidences node = [b, a] → IsTwoWay allows a b →
    ∃ d d', resolve view allows rule node query = .ok d ∧ resolve view' allows rule node query = .ok d' ∧
      (d' = d ↔ rule.sideOf position query a = (rule.sideOf position query b).opposite) ∧
      (rule.sideOf position query a ≠ (rule.sideOf position query b).opposite → d' = d.mirror ∧ d = d'.mirror)

section Directions

variable [Scalar K] {allows : Openness} {position query : Point K} {rule : SideRule K}

/-- A two-way road has both pairings, and the half that is listed first tells their sides. -/
theorem RoadView.directions_twoWay {view : RoadView K} {node : NodeId} {a b : Incidence K}
    (listed : view.incidences node = [a, b]) (apart : a.far ≠ b.far)
    (first : a.arrives allows = true ∧ a.leaves allows = true)
    (second : b.arrives allows = true ∧ b.leaves allows = true) :
    (view.neighborhood allows node position).directions rule query =
      .paired (rule.sideOf position query a) ⟨a.edge, b.edge⟩ ⟨b.edge, a.edge⟩ := by
  have arms : (view.neighborhood allows node position).arms = [a.arm allows, b.arm allows] := by
    simp [neighborhood, listed]
  rw [Neighborhood.directions, Neighborhood.layout_twoWay arms apart (Usage.eq_both_iff.2 first)
    (Usage.eq_both_iff.2 second)]
  rfl

namespace RoadView.Reordered

variable {view view' : RoadView K} {node : NodeId}

/-- Unless the edges are the two halves of a two-way road, the directions do not depend on the order. -/
theorem directions_eq (h : view.Reordered view' node)
    (other : ¬∃ a b, view.incidences node = [a, b] ∧ IsTwoWay allows a b) :
    (view'.neighborhood allows node position).directions rule query =
      (view.neighborhood allows node position).directions rule query := by
  have arms : (view'.neighborhood allows node position).arms.Perm (view.neighborhood allows node position).arms :=
    h.perm.map _
  rcases Neighborhood.layout_perm arms with layout | ⟨_, _, arms, -, apart, first, second⟩
  · exact congrArg (Layout.directions _) layout
  · obtain ⟨a, b, listed, rfl, rfl⟩ := exists_pair_of_arms arms
    have perm := h.perm
    rw [listed, List.perm_pair] at perm
    rw [Usage.eq_both_iff] at first second
    rcases perm with listed' | listed'
    · rw [directions_twoWay listed apart first second, directions_twoWay listed' apart first second]
    · -- the halves are one edge, so it does not matter which of them tells the side
      have edge : a.edge = b.edge := by
        by_contra distinct
        exact other ⟨a, b, listed, apart, distinct, first, second⟩
      rw [directions_twoWay listed apart first second, directions_twoWay listed' apart.symm second first, edge,
        Directions.paired_self, Directions.paired_self]

theorem resolve_eq_of_directions (h : view.Reordered view' node)
    (directions : ∀ position, (view'.neighborhood allows node position).directions rule query =
      (view.neighborhood allows node position).directions rule query) :
    resolve view' allows rule node query = resolve view allows rule node query := by
  rw [resolve_eq, resolve_eq, survey_eq, survey_eq, h.position, Point.checked]
  split
  case isTrue =>
    cases view.position? node with
    | none => rfl
    | some position => exact congrArg Except.ok (directions position)
  case isFalse => rfl

end RoadView.Reordered

/-- **The order hardly matters**: listed in another order, the edges at a node give the same directions, unless they are
the two halves of a two-way road and put the query on the same side. -/
theorem resolve_reordered {view view' : RoadView K} {node : NodeId} (h : view.Reordered view' node)
    (allows : Openness) (rule : SideRule K) (query : Point K) : OrderTells view view' allows rule node query := by
  constructor
  case same =>
    rintro (other | listed)
    · exact h.resolve_eq_of_directions fun _ => h.directions_eq other
    · refine h.resolve_eq_of_directions fun position => ?_
      rw [RoadView.neighborhood, RoadView.neighborhood, listed]
  case twoWay =>
    intro position known onGlobe a b listed listed' road
    have known' : view'.position? node = some position := h.position.trans known
    have different : (⟨a.edge, b.edge⟩ : Pairing) ≠ ⟨b.edge, a.edge⟩ := by
      simp [road.distinct]
    refine ⟨_, _, resolve_eq_ok_iff.2 ⟨onGlobe, position, known, rfl⟩,
      resolve_eq_ok_iff.2 ⟨onGlobe, position, known', rfl⟩, ?_, ?_⟩
    · rw [RoadView.directions_twoWay listed road.apart road.first road.second,
        RoadView.directions_twoWay listed' road.apart.symm road.second road.first]
      exact Directions.paired_swap_iff different
    · rw [RoadView.directions_twoWay listed road.apart road.first road.second,
        RoadView.directions_twoWay listed' road.apart.symm road.second road.first]
      intro alike
      rw [Side.eq_of_ne_opposite alike, Directions.mirror_paired, Directions.mirror_paired]
      exact ⟨rfl, rfl⟩

end Directions

/-- The bend in a road, with its second edge listed first. -/
def bendFromBehind : RoadView Rat := { bend with incidences := fun node => (bend.incidences node).reverse }

/-- Arriving at the bend, the traffic of both halves sees the query on its left. -/
theorem resolve_reordered_bendFromBehind : bend.Reordered bendFromBehind ⟨1⟩ ∧
    OrderTells bend bendFromBehind (fun _ _ => true) .standard ⟨1⟩ ⟨1, 1⟩ := by
  have reordered : bend.Reordered bendFromBehind ⟨1⟩ := ⟨rfl, List.reverse_perm _⟩
  exact ⟨reordered, resolve_reordered reordered _ .standard _⟩

example : (bendFromBehind.neighborhood (fun _ _ => true) ⟨1⟩ ⟨0, 0⟩).directions .standard ⟨1, 1⟩ =
    ((bend.neighborhood (fun _ _ => true) ⟨1⟩ ⟨0, 0⟩).directions .standard ⟨1, 1⟩).mirror := by decide +kernel

end Roadside
