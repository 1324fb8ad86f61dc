import Roadside.Proofs.ExactSides
import Roadside.Proofs.Queries

/-!
# Across the road

At a node with a road through it one listed edge tells the sides of the pairings: the edge by which the only passage
leads in, or, on a two-way road, the edge that is listed first (`TellsSides`). Every road through a node has such an
edge (`isThroughRoad_iff`), and it is the one that the layout refers to (`TellsSides.reference?_layout`).

* **Crossing the road swaps the sides** (`resolve_across`): in exact rationals, a query and its mirror image through the
  node have directions with right and left exchanged where a road leads through the node and the query is off its line,
  and the same directions everywhere else.
-/

namespace Roadside

variable {K : Type}

/-! ## Roads through a node -/

/-- Two edges to different nodes, neither of them shut, by which traffic can arrive and leave. -/
def IsThroughRoad (allows : Openness) (listed : List (Incidence K)) : Prop :=
  ∃ a b, listed = [a, b] ∧ a.far ≠ b.far ∧ a.isUsable allows = true ∧ b.isUsable allows = true ∧ Flows allows listed

/-- The traffic that arrives on the edge `r` tells the sides of the pairings. -/
inductive TellsSides (allows : Openness) (listed : List (Incidence K)) (r : Incidence K) : Prop
  /-- The only passage leads in on `r`. -/
  | oneWay (out : Incidence K) (pair : listed = [r, out] ∨ listed = [out, r]) (apart : r.far ≠ out.far)
      (arrive : r.arrives allows = true) (leave : out.leaves allows = true)
      (single : ¬(out.arrives allows = true ∧ r.leaves allows = true))
  /-- Of the two halves of a two-way road `r` is the one that is listed first. -/
  | twoWay (second : Incidence K) (pair : listed = [r, second]) (apart : r.far ≠ second.far)
      (here : r.arrives allows = true ∧ r.leaves allows = true)
      (there : second.arrives allows = true ∧ second.leaves allows = true)

section Roads

variable {allows : Openness} {listed : List (Incidence K)}

/-- The roads through a node are those that have an edge to tell the sides. -/
theorem isThroughRoad_iff : IsThroughRoad allows listed ↔ ∃ r, TellsSides allows listed r := by
  constructor
  · rintro ⟨a, b, rfl, apart, first, second, arrive, leave⟩
    simp only [List.mem_cons, List.not_mem_nil, or_false, exists_eq_or_imp, exists_eq_left] at arrive leave
    simp only [Incidence.isUsable, Bool.or_eq_true] at first second
    by_cases there : a.arrives allows = true ∧ b.leaves allows = true
    · by_cases back : b.arrives allows = true ∧ a.leaves allows = true
      · exact ⟨a, .twoWay b rfl apart ⟨there.1, back.2⟩ ⟨back.1, there.2⟩⟩
      · exact ⟨a, .oneWay b (.inl rfl) apart there.1 there.2 back⟩
    · exact ⟨b, .oneWay a (.inr rfl) apart.symm (by grind) (by grind) there⟩
  · rintro ⟨r, ⟨out, pair, apart, arrive, leave⟩ | ⟨second, pair, apart, here, there⟩⟩
    · obtain ⟨hr, ho⟩ := mem_of_pair pair
      have flows : Flows allows listed := ⟨⟨r, hr, arrive⟩, out, ho, leave⟩
      rcases pair with pair | pair
      · exact ⟨r, out, pair, apart, isUsable_of_arrives arrive, isUsable_of_leaves leave, flows⟩
      · exact ⟨out, r, pair, apart.symm, isUsable_of_leaves leave, isUsable_of_arrives arrive, flows⟩
    · obtain ⟨hr, -⟩ := mem_of_pair (.inl pair)
      exact ⟨r, second, pair, apart, isUsable_of_arrives here.1, isUsable_of_arrives there.1, ⟨r, hr, here.1⟩, r, hr,
        here.2⟩

variable {view : RoadView K} {node : NodeId} {position : Point K} {r : Incidence K}

/-- The edge that tells the sides comes first in the layout of the node, before the other edge. -/
theorem TellsSides.exists_layout (h : TellsSides allows (view.incidences node) r) (position : Point K) :
    ∃ out, (view.incidences node = [r, out] ∨ view.incidences node = [out, r]) ∧
      ((view.neighborhood allows node position).layout = .oneWay (r.arm allows) (out.arm allows) ∨
        (view.neighborhood allows node position).layout = .twoWay (r.arm allows) (out.arm allows)) := by
  cases h with
  | oneWay out pair apart arrive leave single =>
    have arms : (view.neighborhood allows node position).arms = [r.arm allows, out.arm allows] ∨
        (view.neighborhood allows node position).arms = [out.arm allows, r.arm allows] := by
      rcases pair with pair | pair <;> simp [RoadView.neighborhood, pair]
    exact ⟨out, pair, .inl (Neighborhood.layout_oneWay arms apart arrive leave single)⟩
  | twoWay second pair apart here there =>
    have arms : (view.neighborhood allows node position).arms = [r.arm allows, second.arm allows] := by
      simp [RoadView.neighborhood, pair]
    exact ⟨second, .inl pair, .inr
      (Neighborhood.layout_twoWay arms apart (Usage.eq_both_iff.2 here) (Usage.eq_both_iff.2 there))⟩

/-- The edge that tells the sides is the one that the layout of the node refers to. -/
theorem TellsSides.reference?_layout (h : TellsSides allows (view.incidences node) r) :
    (view.neighborhood allows node position).layout.reference? = some (r.arm allows) := by
  obtain ⟨out, -, oneWay | twoWay⟩ := h.exists_layout position
  · rw [oneWay]
    rfl
  · rw [twoWay]
    rfl

/-- The layout refers to no other edge. -/
theorem exists_tellsSides {arm : Arm K}
    (h : (view.neighborhood allows node position).layout.reference? = some arm) :
    ∃ r, TellsSides allows (view.incidences node) r ∧ r.arm allows = arm := by
  have laid := (view.neighborhood allows node position).laidOut_layout
  generalize (view.neighborhood allows node position).layout = l at laid h
  cases laid with
  | closed | free | deadEnd => cases h
  | oneWay a b arms apart arrive leave single =>
    obtain rfl := Option.some.inj h
    rcases arms with arms | arms
    · obtain ⟨x, y, listed, rfl, rfl⟩ := RoadView.exists_pair_of_arms arms
      exact ⟨x, .oneWay y (.inl listed) apart arrive leave single, rfl⟩
    · obtain ⟨y, x, listed, rfl, rfl⟩ := RoadView.exists_pair_of_arms arms
      exact ⟨x, .oneWay y (.inr listed) apart arrive leave single, rfl⟩
  | twoWay a b arms apart first second =>
    obtain rfl := Option.some.inj h
    obtain ⟨x, y, listed, rfl, rfl⟩ := RoadView.exists_pair_of_arms arms
    exact ⟨x, .twoWay y listed apart (Usage.eq_both_iff.1 first) (Usage.eq_both_iff.1 second), rfl⟩

end Roads

/-! ## Mirror images through a node -/

/-- The point on the other side of a place, as far away from it. -/
def Point.across (place p : Point Rat) : Point Rat := ⟨2 * place.lat - p.lat, 2 * place.lon - p.lon⟩

theorem Heading.cross_across (h : Heading Rat) (place p : Point Rat) :
    h.cross (place.headingTo (place.across p)) = -1 * h.cross (place.headingTo p) := by
  simp only [cross, Point.headingTo, Point.across]
  ring

/-- Seen along the same heading, a point and its mirror image are on opposite sides. -/
theorem SideRule.followsSign_across {rule : SideRule Rat} (sound : 0 ≤ rule.tolerance) (h : Heading Rat)
    (place p : Point Rat) :
    rule.FollowsSign (-1) h (place.headingTo p) h (place.headingTo (place.across p)) :=
  followsSign_of_cross sound (h.cross_across place p) (by rw [neg_one_mul, abs_neg])

/-- What becomes of the directions at a node when the query goes across to its mirror image. -/
structure SidesSwap (allows : Openness) (rule : SideRule Rat) (position query : Point Rat)
    (listed : List (Incidence Rat)) (d d' : Directions) : Prop where
  /-- A road through the node has an edge to tell the sides, and nothing else has. -/
  told : IsThroughRoad allows listed ↔ ∃ r, TellsSides allows listed r
  /-- A single pairing leads in on that edge. -/
  arrival : ∀ r, TellsSides allows listed r → ∀ s p, d = .only s p → p.arrive = r.edge
  /-- Off the line of the road right and left are exchanged. -/
  swapped : ∀ r, TellsSides allows listed r →
    rule.tolerance < |(position.headingTo r.anchor).cross (position.headingTo query)| → d' = d.mirror
  tied : ∀ r, TellsSides allows listed r →
    |(position.headingTo r.anchor).cross (position.headingTo query)| ≤ rule.tolerance → d' = d
  elsewhere : ¬IsThroughRoad allows listed → d' = d

section Directions

variable {view : RoadView Rat} {allows : Openness} {node : NodeId} {position : Point Rat}

/-- The mirror images of directions are the directions of mirror images. -/
theorem sidesSwap_directions {rule : SideRule Rat} (sound : 0 ≤ rule.tolerance) (query : Point Rat) :
    SidesSwap allows rule position query (view.incidences node)
      ((view.neighborhood allows node position).directions rule query)
      ((view.neighborhood allows node position).directions rule (position.across query)) := by
  -- all arms that the layout refers to are the arm of one edge
  have alone {r : Incidence Rat} (tells : TellsSides allows (view.incidences node) r) {arm : Arm Rat}
      (h : (view.neighborhood allows node position).layout.reference? = some arm) : arm = r.arm allows :=
    Option.some.inj (h.symm.trans tells.reference?_layout)
  have follows (r : Incidence Rat) := rule.followsSign_across sound (position.headingTo r.anchor) position query
  constructor
  case told => exact isThroughRoad_iff
  case arrival =>
    intro r tells s p single
    have reference : (view.neighborhood allows node position).layout.reference? = some (r.arm allows) :=
      tells.reference?_layout
    unfold Neighborhood.directions at single
    generalize (view.neighborhood allows node position).layout = l at reference single
    cases l with
    | closed | free | deadEnd => cases reference
    | oneWay a b =>
      cases single
      obtain rfl := Option.some.inj reference
      rfl
    | twoWay a b =>
      rw [Layout.directions] at single
      generalize (view.neighborhood allows node position).sideFrom rule query a = t at single
      cases t <;> cases single
  case swapped =>
    intro r tells apart
    refine Layout.directions_opposite fun arm h => ?_
    rw [alone tells h]
    exact (follows r).turned (by decide) apart
  case tied =>
    intro r tells tie
    refine Layout.directions_same fun arm h => ?_
    rw [alone tells h]
    exact ((follows r).tie tie).2.trans ((follows r).tie tie).1.symm
  case elsewhere =>
    intro other
    refine Layout.directions_same fun arm h => ?_
    obtain ⟨r, tells, -⟩ := exists_tellsSides h
    exact absurd (isThroughRoad_iff.2 ⟨r, tells⟩) other

/-- **Crossing the road swaps the sides**: a query on the globe and its mirror image through a known node, if that is on
the globe as well, have directions with right and left exchanged if a road leads through the node and the query is off
its line, and the same directions otherwise. -/
theorem resolve_across {rule : SideRule Rat} {query : Point Rat} (sound : 0 ≤ rule.tolerance)
    (known : view.position? node = some position) (onGlobe : query.isOnGlobe = true)
    (onGlobe' : (position.across query).isOnGlobe = true) :
    ∃ d d', resolve view allows rule node query = .ok d ∧
      resolve view allows rule node (position.across query) = .ok d' ∧
      SidesSwap allows rule position query (view.incidences node) d d' :=
  ⟨_, _, resolve_eq_ok_iff.2 ⟨onGlobe, position, known, rfl⟩, resolve_eq_ok_iff.2 ⟨onGlobe', position, known, rfl⟩,
    sidesSwap_directions sound query⟩

end Directions

/-- The query lies beyond the tolerance, to the left of the traffic that arrives from the bend's one-way edge. -/
theorem resolve_across_oneWayBend :
    let allows : Openness := fun edge travel => edge = ⟨0⟩ || travel = .backward
    let rule : SideRule Rat := ⟨.right, 1 / 2⟩
    let query : Point Rat := ⟨-1, 3⟩
    0 ≤ rule.tolerance ∧ bend.position? ⟨1⟩ = some ⟨0, 0⟩ ∧ query.isOnGlobe = true ∧
      ((⟨0, 0⟩ : Point Rat).across query).isOnGlobe = true ∧
      ∃ d d', resolve bend allows rule ⟨1⟩ query = .ok d ∧
        resolve bend allows rule ⟨1⟩ ((⟨0, 0⟩ : Point Rat).across query) = .ok d' ∧
        SidesSwap allows rule ⟨0, 0⟩ query (bend.incidences ⟨1⟩) d d' := by
  intro allows rule query
  have sound : 0 ≤ rule.tolerance := by decide +kernel
  have known : bend.position? ⟨1⟩ = some ⟨0, 0⟩ := by decide
  have onGlobe : query.isOnGlobe = true := by decide +kernel
  have onGlobe' : ((⟨0, 0⟩ : Point Rat).across query).isOnGlobe = true := by decide +kernel
  exact ⟨sound, known, onGlobe, onGlobe', resolve_across sound known onGlobe onGlobe'⟩

end Roadside
