import Roadside.Proofs.ListingOrder

/-!
# What queries decide

How the arms of a node lie tells which edges can be paired there. The query, and the rule for queries too near to the
line of the road, are asked for nothing but the side of a pairing.

* **A layout has one answer for all sides**, up to the exchange of right and left (`Layout.directions_sides`).
* **Queries decide sides only** (`resolve_differInSides`): for two queries beside a node, under whatever rules, there
  are directions that have the same pairings and are the same, or the mirror images of one another.
-/

namespace Roadside

variable {K : Type}

theorem Side.eq_or_eq_opposite (s t : Side) : t = s ∨ t = s.opposite := by
  cases s <;> cases t <;> simp [opposite]

/-! ## Directions that differ in sides -/

namespace Directions

/-- Directions that are the same but for the sides of their pairings. -/
structure DifferInSides (d d' : Directions) : Prop where
  /-- On both sides they differ, or on none. -/
  mirrored : d' = d ∨ d' = d.mirror
  impossible : d' = .impossible ↔ d = .impossible
  unrestricted : d' = .unrestricted ↔ d = .unrestricted
  restricted : d'.isRestricted = d.isRestricted
  pairings : ∀ p, (∃ s, d'.pairing? s = some p) ↔ ∃ s, d.pairing? s = some p

/-- Placed with regard to the opposite side, two pairings change places. -/
theorem paired_opposite (s : Side) (p q : Pairing) : paired s.opposite p q = (paired s p q).mirror := by
  cases s <;> rfl

/-- The mirror image has the pairings of the directions, each on the opposite side. -/
theorem exists_pairing?_mirror (d : Directions) (p : Pairing) :
    (∃ s, d.mirror.pairing? s = some p) ↔ ∃ s, d.pairing? s = some p := by
  simp only [pairing?_mirror]
  constructor
  · rintro ⟨s, h⟩
    exact ⟨s.opposite, h⟩
  · rintro ⟨s, h⟩
    refine ⟨s.opposite, ?_⟩
    rwa [Side.opposite_opposite]

theorem DifferInSides.refl (d : Directions) : DifferInSides d d := ⟨.inl rfl, .rfl, .rfl, rfl, fun _ => .rfl⟩

theorem DifferInSides.mirror (d : Directions) : DifferInSides d d.mirror := by
  constructor
  case mirrored => exact .inr rfl
  case impossible => cases d <;> simp [Directions.mirror]
  case unrestricted => cases d <;> simp [Directions.mirror]
  case restricted => cases d <;> rfl
  case pairings => exact d.exists_pairing?_mirror

end Directions

/-! ## Layouts -/

namespace Layout

variable {l : Layout K} {side side' : Arm K → Side}

/-- Only the reference arm is asked for its side. -/
theorem directions_same (same : ∀ arm, l.reference? = some arm → side' arm = side arm) :
    l.directions side' = l.directions side := by
  cases l with
  | closed | free | deadEnd => rfl
  | oneWay a b => rw [directions, directions, same a rfl]
  | twoWay a b => rw [directions, directions, same a rfl]

/-- If the reference arm has the opposite side, right and left are exchanged. -/
theorem directions_opposite (opposite : ∀ arm, l.reference? = some arm → side' arm = (side arm).opposite) :
    l.directions side' = (l.directions side).mirror := by
  cases l with
  | closed | free | deadEnd => rfl
  | oneWay a b =>
    rw [directions, directions, opposite a rfl]
    rfl
  | twoWay a b => rw [directions, directions, opposite a rfl, Directions.paired_opposite]

/-- However the sides are told, a layout gives the same directions or their mirror image. -/
theorem directions_sides (l : Layout K) (side side' : Arm K → Side) :
    l.directions side' = l.directions side ∨ l.directions side' = (l.directions side).mirror := by
  cases reference : l.reference? with
  | none => exact .inl (directions_same (by simp [reference]))
  | some arm =>
    rcases Side.eq_or_eq_opposite (side arm) (side' arm) with same | opposite
    · exact .inl (directions_same fun other h => Option.some.inj (reference.symm.trans h) ▸ same)
    · exact .inr (directions_opposite fun other h => Option.some.inj (reference.symm.trans h) ▸ opposite)

end Layout

theorem Layout.differInSides (l : Layout K) (side side' : Arm K → Side) :
    (l.directions side).DifferInSides (l.directions side') := by
  rcases l.directions_sides side side' with same | mirrored
  · rw [same]
    exact .refl _
  · rw [mirrored]
    exact .mirror _

/-! ## Resolutions -/

/-- **Queries decide sides only**: for any two queries on the globe and any two rules, a known node has directions that
differ in the sides of their pairings at most. -/
theorem resolve_differInSides [Scalar K] {view : RoadView K} {node : NodeId} {position : Point K}
    (known : view.position? node = some position) (allows : Openness) (rule rule' : SideRule K) {query query' : Point K}
    (onGlobe : query.isOnGlobe = true) (onGlobe' : query'.isOnGlobe = true) :
    ∃ d d', resolve view allows rule node query = .ok d ∧ resolve view allows rule' node query' = .ok d' ∧
      d.DifferInSides d' := by
  refine ⟨_, _, resolve_eq_ok_iff.2 ⟨onGlobe, position, known, rfl⟩,
    resolve_eq_ok_iff.2 ⟨onGlobe', position, known, rfl⟩, ?_⟩
  -- both answers are read off the one layout of the node
  exact (view.neighborhood allows node position).layout.differInSides _ _

/-- A query on the line of the road is a tie, and the second rule decides ties the other way. -/
theorem resolve_differInSides_bend :
    let rule : SideRule Rat := ⟨.right, 1⟩
    bend.position? ⟨1⟩ = some ⟨0, 0⟩ ∧ (⟨1, 1⟩ : Point Rat).isOnGlobe = true ∧
      (⟨0, 5⟩ : Point Rat).isOnGlobe = true ∧
      ∃ d d', resolve bend (fun _ _ => true) .standard ⟨1⟩ ⟨1, 1⟩ = .ok d ∧
        resolve bend (fun _ _ => true) rule ⟨1⟩ ⟨0, 5⟩ = .ok d' ∧ d.DifferInSides d' := by
  intro rule
  have known : bend.position? ⟨1⟩ = some ⟨0, 0⟩ := by decide
  have onGlobe : (⟨1, 1⟩ : Point Rat).isOnGlobe = true := by decide +kernel
  have onGlobe' : (⟨0, 5⟩ : Point Rat).isOnGlobe = true := by decide +kernel
  exact ⟨known, onGlobe, onGlobe', resolve_differInSides known _ .standard rule onGlobe onGlobe'⟩

end Roadside
