import Mathlib.Algebra.Order.Field.Rat
import Mathlib.Algebra.Order.Ring.Abs
import Mathlib.Tactic.Ring
import Roadside.Bearing

/-!
# Sides without rounding

In exact rationals the side of a query is a matter of geometry. It hangs on the cross product alone
(`SideRule.side_eq_sideAt`), and whatever multiplies the cross product by a positive number keeps the side, while a
negative factor turns it into the opposite one (`SideRule.sideAt_mul`).

* **Sides are geometric** (`side_followsMaps`): an affine map of the plane, applied to the node, the anchor and the
  query, keeps the side if its determinant is positive and turns it if the determinant is negative, and so does the
  scaling of heading and offset, by the sign of the product of the scales. Ties stay ties. With a tolerance, this holds
  of the maps that keep areas.
-/

namespace Roadside

/-! ## The cross product tells the side -/

theorem Scalar.abs_rat (x : Rat) : Scalar.abs x = |x| := by
  change (if 0 ≤ x then x else -x) = |x|
  split
  case isTrue nonneg => rw [abs_of_nonneg nonneg]
  case isFalse neg => rw [abs_of_neg (not_le.1 neg)]

namespace SideRule

variable {rule : SideRule Rat} {h v : Heading Rat}

/-- The side that a cross product stands for. -/
def sideAt (rule : SideRule Rat) (product : Rat) : Side :=
  if |product| ≤ rule.tolerance then rule.tieSide else if 0 < product then .right else .left

theorem cross_of_isZero (zero : h.isZero = true ∨ v.isZero = true) : h.cross v = 0 := by
  simp only [Heading.isZero, Scalar.isZero, Bool.and_eq_true, beq_iff_eq] at zero
  rw [Heading.cross]
  rcases zero with ⟨dx, dy⟩ | ⟨dx, dy⟩ <;> simp [dx, dy]

/-- Vectors of length zero have no cross product, and every rational is finite: only the tolerance makes a tie. -/
theorem isTie_iff (sound : 0 ≤ rule.tolerance) : rule.isTie h v = true ↔ |h.cross v| ≤ rule.tolerance := by
  have band : rule.isTie h v = true ↔ (h.isZero = true ∨ v.isZero = true) ∨ |h.cross v| ≤ rule.tolerance := by
    simp [isTie, Scalar.abs_rat, Scalar.isFinite]
  rw [band, or_iff_right_iff_imp]
  intro zero
  rwa [cross_of_isZero zero, abs_zero]

/-- The cross product alone tells the side. -/
theorem side_eq_sideAt (sound : 0 ≤ rule.tolerance) (h v : Heading Rat) : rule.side h v = rule.sideAt (h.cross v) := by
  simp only [side, sideAt, isTie_iff sound]
  rfl

/-! ## Factors of the cross product -/

section Factor

variable {factor product : Rat}

theorem sideAt_tie (tie : |product| ≤ rule.tolerance) : rule.sideAt product = rule.tieSide := if_pos tie

theorem sideAt_pos (apart : rule.tolerance < |product|) (pos : 0 < product) : rule.sideAt product = .right := by
  rw [sideAt, if_neg (not_le.2 apart), if_pos pos]

theorem sideAt_neg (apart : rule.tolerance < |product|) (neg : product < 0) : rule.sideAt product = .left := by
  rw [sideAt, if_neg (not_le.2 apart), if_neg (not_lt.2 neg.le)]

/-- Beyond the tolerance, a factor keeps the side or turns it, as its sign says. -/
theorem sideAt_mul (sound : 0 ≤ rule.tolerance) (apart : rule.tolerance < |product|)
    (still : rule.tolerance < |factor * product|) :
    (0 < factor → rule.sideAt (factor * product) = rule.sideAt product) ∧
      (factor < 0 → rule.sideAt (factor * product) = (rule.sideAt product).opposite) := by
  have nonzero : product ≠ 0 := abs_pos.1 (lt_of_le_of_lt sound apart)
  rcases lt_or_gt_of_ne nonzero with neg | pos
  · rw [sideAt_neg apart neg]
    exact ⟨fun sign => sideAt_neg still (mul_neg_of_pos_of_neg sign neg),
      fun sign => sideAt_pos still (mul_pos_of_neg_of_neg sign neg)⟩
  · rw [sideAt_pos apart pos]
    exact ⟨fun sign => sideAt_pos still (mul_pos sign pos),
      fun sign => sideAt_neg still (mul_neg_of_neg_of_pos sign pos)⟩

end Factor

end SideRule

/-- What becomes of a side when the heading and the offset are moved, by the sign of a factor. -/
structure SideRule.FollowsSign (rule : SideRule Rat) (factor : Rat) (h v h' v' : Heading Rat) : Prop where
  kept : 0 < factor → rule.side h' v' = rule.side h v
  turned : factor < 0 → rule.tolerance < |h.cross v| → rule.side h' v' = (rule.side h v).opposite
  /-- What is within the tolerance stays there, and nothing else gets there. -/
  band : |h'.cross v'| ≤ rule.tolerance ↔ |h.cross v| ≤ rule.tolerance
  tie : |h.cross v| ≤ rule.tolerance → rule.side h v = rule.tieSide ∧ rule.side h' v' = rule.tieSide
  /-- Degenerate vectors are within the tolerance, whatever it is. -/
  degenerate : h.isZero = true ∨ v.isZero = true → |h.cross v| ≤ rule.tolerance

theorem SideRule.followsSign_of_cross {rule : SideRule Rat} {factor : Rat} {h v h' v' : Heading Rat}
    (sound : 0 ≤ rule.tolerance) (multiplied : h'.cross v' = factor * h.cross v)
    (band : |factor * h.cross v| ≤ rule.tolerance ↔ |h.cross v| ≤ rule.tolerance) :
    rule.FollowsSign factor h v h' v' := by
  have tie (within : |h.cross v| ≤ rule.tolerance) :
      rule.side h v = rule.tieSide ∧ rule.side h' v' = rule.tieSide := by
    rw [side_eq_sideAt sound, side_eq_sideAt sound, multiplied]
    exact ⟨sideAt_tie within, sideAt_tie (band.2 within)⟩
  constructor
  case kept =>
    intro sign
    rcases le_or_gt |h.cross v| rule.tolerance with within | apart
    · rw [(tie within).1, (tie within).2]
    · rw [side_eq_sideAt sound, side_eq_sideAt sound, multiplied]
      exact (sideAt_mul sound apart (not_le.1 (mt band.1 (not_le.2 apart)))).1 sign
  case turned =>
    intro sign apart
    rw [side_eq_sideAt sound, side_eq_sideAt sound, multiplied]
    exact (sideAt_mul sound apart (not_le.1 (mt band.1 (not_le.2 apart)))).2 sign
  case band => rw [multiplied, band]
  case tie => exact tie
  case degenerate =>
    intro zero
    rwa [cross_of_isZero zero, abs_zero]

/-! ## Maps of the plane -/

/-- An affine map of the plane: where the point at zero degrees goes, and what becomes of one degree to the east and of
one degree to the north. -/
structure PlaneMap where
  origin : Point Rat
  east : Heading Rat
  north : Heading Rat

namespace PlaneMap

def apply (m : PlaneMap) (p : Point Rat) : Point Rat :=
  ⟨m.origin.lat + (p.lon * m.east.dy + p.lat * m.north.dy), m.origin.lon + (p.lon * m.east.dx + p.lat * m.north.dx)⟩

/-- The determinant of the map, by which it multiplies areas. -/
def det (m : PlaneMap) : Rat := m.east.cross m.north

/-- The map that stretches the two axes; with the cosine of the latitude in the east it is the usual projection. -/
def stretch (east north : Rat) : PlaneMap := ⟨⟨0, 0⟩, ⟨east, 0⟩, ⟨0, north⟩⟩

theorem det_stretch (east north : Rat) : (stretch east north).det = east * north := by
  change east * north - 0 * 0 = _
  ring

theorem cross_apply (m : PlaneMap) (p q r : Point Rat) :
    ((m.apply p).headingTo (m.apply q)).cross ((m.apply p).headingTo (m.apply r)) =
      m.det * (p.headingTo q).cross (p.headingTo r) := by
  simp only [apply, det, Point.headingTo, Heading.cross]
  ring

end PlaneMap

/-- The vector with its length multiplied, turned around by a negative factor. -/
def Heading.scale (factor : Rat) (h : Heading Rat) : Heading Rat := ⟨factor * h.dx, factor * h.dy⟩

theorem Heading.cross_scale (s t : Rat) (h v : Heading Rat) : (h.scale s).cross (v.scale t) = s * t * h.cross v := by
  simp only [scale, cross]
  ring

/-- Sides, with this one for ties, follow the maps of the plane. -/
structure FollowsMaps (tieSide : Side) : Prop where
  /-- Without a tolerance, the determinant tells what becomes of the side. -/
  maps : ∀ (m : PlaneMap) (node anchor query : Point Rat), m.det ≠ 0 →
    (SideRule.mk tieSide 0).FollowsSign m.det (node.headingTo anchor) (node.headingTo query)
      ((m.apply node).headingTo (m.apply anchor)) ((m.apply node).headingTo (m.apply query))
  stretched : ∀ (east north : Rat) (node anchor query : Point Rat), 0 < east → 0 < north →
    let m := PlaneMap.stretch east north
    (SideRule.mk tieSide 0).side ((m.apply node).headingTo (m.apply anchor))
        ((m.apply node).headingTo (m.apply query)) =
      (SideRule.mk tieSide 0).side (node.headingTo anchor) (node.headingTo query)
  scaled : ∀ (s t : Rat) (h v : Heading Rat), s ≠ 0 → t ≠ 0 →
    (SideRule.mk tieSide 0).FollowsSign (s * t) h v (h.scale s) (v.scale t)
  /-- Maps that keep areas do the same with any tolerance. -/
  areas : ∀ (tolerance : Rat) (m : PlaneMap) (node anchor query : Point Rat), 0 ≤ tolerance → m.det = 1 ∨ m.det = -1 →
    (SideRule.mk tieSide tolerance).FollowsSign m.det (node.headingTo anchor) (node.headingTo query)
      ((m.apply node).headingTo (m.apply anchor)) ((m.apply node).headingTo (m.apply query))

/-- Without a tolerance, any factor but zero leaves ties alone. -/
theorem SideRule.followsSign_exact (tieSide : Side) {factor : Rat} {h v h' v' : Heading Rat} (nonzero : factor ≠ 0)
    (multiplied : h'.cross v' = factor * h.cross v) : (SideRule.mk tieSide 0).FollowsSign factor h v h' v' :=
  followsSign_of_cross le_rfl multiplied (by
    rw [abs_nonpos_iff, abs_nonpos_iff, mul_eq_zero, or_iff_right nonzero])

/-- **Sides are geometric**: they follow the affine maps of the plane, by the sign of the determinant, and the scaling
of heading and offset, by the sign of the product of the scales. -/
theorem side_followsMaps (tieSide : Side) : FollowsMaps tieSide := by
  constructor
  case maps => exact fun m p q r nonzero => SideRule.followsSign_exact tieSide nonzero (m.cross_apply p q r)
  case stretched =>
    intro east north p q r eastPos northPos m
    have pos : 0 < m.det := by
      rw [PlaneMap.det_stretch]
      exact mul_pos eastPos northPos
    exact (SideRule.followsSign_exact tieSide pos.ne' (m.cross_apply p q r)).kept pos
  case scaled =>
    exact fun s t h v hs ht => SideRule.followsSign_exact tieSide (mul_ne_zero hs ht) (h.cross_scale s t v)
  case areas =>
    intro tolerance m p q r sound area
    have unit : |m.det| = 1 := by rcases area with det | det <;> simp [det]
    refine SideRule.followsSign_of_cross sound (m.cross_apply p q r) ?_
    rw [abs_mul, unit, one_mul]

end Roadside
