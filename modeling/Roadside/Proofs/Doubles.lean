import Mathlib
import Roadside.Plane

/-!
# Doubles in order

The comparisons of doubles are those of a linear order from which the values that are no number are left out, and the
arithmetic of finite doubles stays clear of these values.

* **Numbers are in line** (`place?_eq_none_iff`, `le_iff`, `lt_iff`): every number has its place, and comparing
  numbers is comparing places. So `≤` is transitive, total on numbers, and excludes `>`.
* **Squares of distances are numbers** (`Point.isNaN_squaredDistance`): differences of finite doubles may be infinite,
  but their squares are not negative, so that they can be added.
-/

namespace Roadside

open Float.Model Float.Model.UnpackedFloat

namespace Double

/-! ## The order -/

/-- The place of a double among the numbers: negative ones, zeros and positive ones, and of those with one sign the ones
with the smaller exponent before the others if they are positive, after them if they are negative. -/
def place? : UnpackedFloat → Option (ℤ ×ₗ ℤ ×ₗ ℤ)
  | .notANumber => none
  | .infinity .negative => some (toLex (-2, toLex (0, 0)))
  | .finite .negative m e _ => some (toLex (-1, toLex (-e, -(m : ℤ))))
  | .zero _ => some (toLex (0, toLex (0, 0)))
  | .finite .positive m e _ => some (toLex (1, toLex (e, (m : ℤ))))
  | .infinity .positive => some (toLex (2, toLex (0, 0)))

theorem compare_toLex (a b c a' b' c' : ℤ) : compare (toLex (a, toLex (b, c))) (toLex (a', toLex (b', c'))) =
    (compare a a').then ((compare b b').then (compare c c')) := by
  simp [Prod.Lex.compare_def, compareLex, compareOn]

theorem compare_natCast (m n : ℕ) : compare (m : ℤ) (n : ℤ) = compare m n := by
  rw [← cmp_eq_compare, ← cmp_eq_compare]
  exact Nat.strictMono_cast.cmp_map_eq m n

theorem compare_neg (m n : ℤ) : compare (-m) (-n) = (compare m n).swap := by
  rw [← cmp_eq_compare, ← cmp_eq_compare, cmp_swap]
  exact StrictAnti.cmp_map_eq (fun _ _ => neg_lt_neg) m n

/-- Comparing doubles is comparing their places. -/
theorem compare_eq (x y : UnpackedFloat) :
    x.compare y = (place? x).bind fun a => (place? y).map fun b => compare a b := by
  rcases x with (_ | _) | _ | _ | ⟨_ | _, m, e, hm⟩ <;> rcases y with (_ | _) | _ | _ | ⟨_ | _, n, f, hn⟩ <;>
    try rfl
  case finite.negative.finite.negative =>
    simp [UnpackedFloat.compare, place?, compare_toLex, compare_neg, compare_natCast, Ordering.swap_then]
  case finite.positive.finite.positive =>
    simp [UnpackedFloat.compare, place?, compare_toLex, compare_natCast]

theorem place?_eq_none_iff {x : UnpackedFloat} : place? x = none ↔ x.isNaN = true := by
  rcases x with (_ | _) | _ | _ | ⟨_ | _, m, e, hm⟩ <;> simp [place?, UnpackedFloat.isNaN]

section Comparisons

variable {x y z : Float}

theorem le_iff : x ≤ y ↔ ∃ a b, place? x.toModel.unpack = some a ∧ place? y.toModel.unpack = some b ∧ a ≤ b := by
  have unfolded : x ≤ y ↔ (x.toModel.unpack.compare y.toModel.unpack).any (·.isLE) = true := by
    show decide (x.toModel ≤ y.toModel) = true ↔ _
    rw [decide_eq_true_iff]
    rfl
  rw [unfolded, compare_eq]
  cases place? x.toModel.unpack <;> cases place? y.toModel.unpack <;>
    simp [Ordering.isLE_iff_ne_gt, compare_le_iff_le]

theorem lt_iff : x < y ↔ ∃ a b, place? x.toModel.unpack = some a ∧ place? y.toModel.unpack = some b ∧ a < b := by
  have unfolded : x < y ↔ (x.toModel.unpack.compare y.toModel.unpack == some .lt) = true := by
    show decide (x.toModel < y.toModel) = true ↔ _
    rw [decide_eq_true_iff]
    rfl
  rw [unfolded, compare_eq]
  cases place? x.toModel.unpack <;> cases place? y.toModel.unpack <;> simp [compare_lt_iff_lt]

theorem le_trans (h : x ≤ y) (h' : y ≤ z) : x ≤ z := by
  obtain ⟨a, b, hx, hy, le⟩ := le_iff.1 h
  obtain ⟨b', c, hy', hz, le'⟩ := le_iff.1 h'
  obtain rfl : b = b' := Option.some.inj (hy.symm.trans hy')
  exact le_iff.2 ⟨a, c, hx, hz, le.trans le'⟩

theorem not_lt_of_le (h : x ≤ y) : ¬y < x := by
  intro h'
  obtain ⟨a, b, hx, hy, le⟩ := le_iff.1 h
  obtain ⟨b', a', hy', hx', lt⟩ := lt_iff.1 h'
  obtain rfl : a = a' := Option.some.inj (hx.symm.trans hx')
  obtain rfl : b = b' := Option.some.inj (hy.symm.trans hy')
  exact absurd lt (not_lt.2 le)

theorem isNaN_eq_false_iff : x.isNaN = false ↔ ∃ a, place? x.toModel.unpack = some a := by
  rw [← Option.ne_none_iff_exists', Ne, place?_eq_none_iff, Bool.not_eq_true]
  exact Iff.rfl

theorem le_total (hx : x.isNaN = false) (hy : y.isNaN = false) : x ≤ y ∨ y ≤ x := by
  obtain ⟨a, ha⟩ := isNaN_eq_false_iff.1 hx
  obtain ⟨b, hb⟩ := isNaN_eq_false_iff.1 hy
  rcases LinearOrder.le_total a b with le | le
  · exact .inl (le_iff.2 ⟨a, b, ha, hb, le⟩)
  · exact .inr (le_iff.2 ⟨b, a, hb, ha, le⟩)

/-- The order of doubles in which what is no number comes last: the comparison `≤` alone is not total. -/
def comesFirst (x y : Float) : Bool := decide (x ≤ y) || y.isNaN

theorem comesFirst_eq (hy : y.isNaN = false) : comesFirst x y = decide (x ≤ y) := by
  rw [comesFirst, hy, Bool.or_false]

theorem comesFirst_trans (h : comesFirst x y = true) (h' : comesFirst y z = true) : comesFirst x z = true := by
  cases hz : z.isNaN
  case true => rw [comesFirst, hz, Bool.or_true]
  case false =>
    rw [comesFirst_eq hz, decide_eq_true_iff] at h' ⊢
    obtain ⟨b, -, hb, -⟩ := le_iff.1 h'
    rw [comesFirst_eq (isNaN_eq_false_iff.2 ⟨b, hb⟩), decide_eq_true_iff] at h
    exact le_trans h h'

theorem comesFirst_total : comesFirst x y = true ∨ comesFirst y x = true := by
  cases hx : x.isNaN
  case true => exact .inr (by rw [comesFirst, hx, Bool.or_true])
  case false =>
    cases hy : y.isNaN
    case true => exact .inl (by rw [comesFirst, hy, Bool.or_true])
    case false =>
      rw [comesFirst_eq hx, comesFirst_eq hy, decide_eq_true_iff, decide_eq_true_iff]
      exact le_total hx hy

/-- Sorting by numbers puts them in order. -/
theorem pairwise_mergeSort {α : Type} (f : α → Float) {l : List α} (number : ∀ a ∈ l, (f a).isNaN = false) :
    (l.mergeSort fun a b => f a ≤ f b).Pairwise fun a b => f a ≤ f b := by
  have same : (l.mergeSort fun a b => f a ≤ f b) = l.mergeSort fun a b => comesFirst (f a) (f b) := by
    have agree := List.map_mergeSort (f := id) (s := fun a b => comesFirst (f a) (f b)) (r := fun a b => f a ≤ f b)
      fun a _ b hb => (comesFirst_eq (number b hb)).symm
    rwa [List.map_id, List.map_id] at agree
  have sorted : (l.mergeSort fun a b => comesFirst (f a) (f b)).Pairwise fun a b => comesFirst (f a) (f b) = true :=
    List.pairwise_mergeSort (fun a b c => comesFirst_trans (x := f a) (y := f b) (z := f c))
      (fun a b => (Bool.or_eq_true ..).mpr (comesFirst_total (x := f a) (y := f b))) l
  rw [same]
  refine sorted.imp_of_mem fun {a b} _ hb first => ?_
  rwa [comesFirst_eq (number b (List.mem_mergeSort.1 hb)), decide_eq_true_iff] at first

end Comparisons

/-! ## Signs -/

/-- The sign of a double, if it is a number. -/
def sign? : UnpackedFloat → Option Sign
  | .notANumber => none
  | .infinity s | .zero s | .finite s .. => some s

theorem sign?_eq_none_iff {x : UnpackedFloat} : sign? x = none ↔ x.isNaN = true := by
  cases x <;> simp [sign?, UnpackedFloat.isNaN]

/-- The bits of a double are no number iff the exponent is all ones and the fraction is not zero. -/
theorem sign?_unpack (spec : Format) (b : BitVec spec.numBits) : sign? (unpack spec b) =
    if unpackExponent b = -1#_ ∧ unpackMantissa b ≠ 0#_ then none else some (.ofBitVec (unpackSign b)) := by
  by_cases ones : unpackExponent b = -1#_
  · by_cases zero : unpackMantissa b = 0#_ <;> simp [UnpackedFloat.unpack, ones, zero, sign?]
  · rw [if_neg fun h => ones h.1, UnpackedFloat.unpack, if_neg ones]
    by_cases subnormal : unpackExponent b = 0#_
    · rw [if_pos subnormal]
      split <;> rfl
    · rw [if_neg subnormal]
      rfl

/-- Rounding to the bits of a double keeps the sign, and it keeps what is no number. -/
theorem sign?_unpack_pack (x : UnpackedFloat) : sign? (Float.Model.pack x).unpack = sign? x := by
  show sign? (unpack .binary64 (UnpackedFloat.pack .binary64 x)) = sign? x
  rw [sign?_unpack]
  cases x with
  | notANumber => rfl
  | infinity s => simp [UnpackedFloat.pack, packedInfinity, sign?]
  | zero s => simp [UnpackedFloat.pack, packedZero, sign?]
  | finite s m e hm =>
    unfold UnpackedFloat.pack
    dsimp only
    split
    case isTrue => simp [packedInfinity, sign?]
    case isFalse small =>
      split
      case isTrue =>
        -- the exponent is not all ones, or the bits would have been those of an infinity
        have finite : BitVec.ofNat 11 (e + 1023 + 52).toNat ≠ -1#11 := by
          intro ones
          have := congrArg BitVec.toNat ones
          simp [Format.exponentBias] at this small
          omega
        rw [unpackSign_packComponents, Sign.ofBitVec_toBitVec, unpackExponent_packComponents,
          if_neg fun h => finite h.1]
        rfl
      case isFalse => simp [sign?]

/-! ## Arithmetic -/

theorem sign?_roundWithAccuracy (spec : Format) (s : Sign) (m : ℕ) (e : ℤ) (a : Accuracy) :
    sign? (roundWithAccuracy spec s m e a) = some s := by
  unfold roundWithAccuracy
  dsimp only
  split <;> rfl

theorem isSome_sign?_normalize (spec : Format) (m e : ℤ) (s : Sign) :
    (sign? (UnpackedFloat.normalize spec m e s)).isSome = true := by
  unfold UnpackedFloat.normalize
  split
  · exact Option.isSome_of_eq_some (sign?_roundWithAccuracy ..)
  · rfl
  · exact Option.isSome_of_eq_some (sign?_roundWithAccuracy ..)

/-- Finite doubles have a difference. -/
theorem isSome_sign?_sub {x y : Float} (hx : x.isFinite = true) (hy : y.isFinite = true) :
    (sign? (x - y).toModel.unpack).isSome = true := by
  show (sign? (Float.Model.pack (UnpackedFloat.sub .binary64 x.toModel.unpack y.toModel.unpack)).unpack).isSome = true
  change x.toModel.unpack.isFinite = true at hx
  change y.toModel.unpack.isFinite = true at hy
  rw [sign?_unpack_pack]
  match x.toModel.unpack, y.toModel.unpack, hx, hy with
  | .zero s, .zero t, _, _ =>
    rw [UnpackedFloat.sub]
    split <;> rfl
  | .zero _, .finite .., _, _ | .finite .., .zero _, _, _ => rfl
  | .finite .., .finite .., _, _ => exact isSome_sign?_normalize ..

/-- The square of a number is a number, and it is not negative. -/
theorem sign?_mul_self {x : Float} (h : (sign? x.toModel.unpack).isSome = true) :
    sign? (x * x).toModel.unpack = some .positive := by
  show sign? (Float.Model.pack (UnpackedFloat.mul .binary64 x.toModel.unpack x.toModel.unpack)).unpack = _
  have square (s : Sign) : s * s = .positive := by cases s <;> rfl
  rw [sign?_unpack_pack]
  match x.toModel.unpack, h with
  | .infinity s, _ | .zero s, _ => exact congrArg some (square s)
  | .finite s .., _ => exact (sign?_roundWithAccuracy ..).trans (congrArg some (square s))

/-- Numbers that are not negative have a sum. -/
theorem isSome_sign?_add {x y : Float} (hx : sign? x.toModel.unpack = some .positive)
    (hy : sign? y.toModel.unpack = some .positive) : (sign? (x + y).toModel.unpack).isSome = true := by
  show (sign? (Float.Model.pack (UnpackedFloat.add .binary64 x.toModel.unpack y.toModel.unpack)).unpack).isSome = true
  rw [sign?_unpack_pack]
  match x.toModel.unpack, y.toModel.unpack, hx, hy with
  | .infinity .positive, .infinity .positive, _, _ | .zero .positive, .zero .positive, _, _ => rfl
  | .infinity _, .zero _, _, _ | .infinity _, .finite .., _, _ => rfl
  | .zero _, .infinity _, _, _ | .finite .., .infinity _, _, _ => rfl
  | .zero _, .finite .., _, _ | .finite .., .zero _, _, _ => rfl
  | .finite .., .finite .., _, _ => exact isSome_sign?_normalize ..

end Double

/-- Both components are finite. -/
def Point.IsFinite (p : Point Float) : Prop := p.lat.isFinite = true ∧ p.lon.isFinite = true

instance (p : Point Float) : Decidable p.IsFinite := inferInstanceAs (Decidable (_ ∧ _))

/-- The square of the distance between finite points is a number, even where it is infinite. -/
theorem Point.isNaN_squaredDistance {p q : Point Float} (hp : p.IsFinite) (hq : q.IsFinite) :
    (p.squaredDistance q).isNaN = false := by
  have lat := Double.sign?_mul_self (Double.isSome_sign?_sub hp.1 hq.1)
  have lon := Double.sign?_mul_self (Double.isSome_sign?_sub hp.2 hq.2)
  have number := Double.isSome_sign?_add lat lon
  rw [← Option.ne_none_iff_isSome, Ne, Double.sign?_eq_none_iff, Bool.not_eq_true] at number
  exact number

end Roadside
