import Roadside.Resolution

/-!
# The layout of a node, said on its arms

`Neighborhood.LaidOut n l` says in terms of the arms alone what it takes for `n` to be laid out as `l`, without the
order in which `Neighborhood.layout` goes through the cases. The layout that is found is so laid out
(`laidOut_layout`), and a resolution that has an answer reads it off that layout (`resolve_eq_ok_iff`).

On the side of the map, `Incidence.arrives` and `Incidence.leaves` say what the answers about openness make of a listed
edge.
-/

namespace Roadside

variable {K : Type}

/-! ## Listed edges -/

namespace Incidence

/-- Traffic may arrive at the node on this edge. -/
def arrives (i : Incidence K) (allows : Openness) : Bool := allows i.edge i.inward

/-- Traffic may leave the node on this edge. -/
def leaves (i : Incidence K) (allows : Openness) : Bool := allows i.edge i.outward

/-- The edge is open in some direction. -/
def isUsable (i : Incidence K) (allows : Openness) : Bool := i.arrives allows || i.leaves allows

@[simp] theorem edge_arm (i : Incidence K) (allows : Openness) : (i.arm allows).edge = i.edge := rfl

@[simp] theorem arrive_arm (i : Incidence K) (allows : Openness) :
    (i.arm allows).usage.arrive = i.arrives allows := rfl

@[simp] theorem leave_arm (i : Incidence K) (allows : Openness) :
    (i.arm allows).usage.leave = i.leaves allows := rfl

@[simp] theorem isOpen_arm (i : Incidence K) (allows : Openness) :
    (i.arm allows).isOpen = i.isUsable allows := rfl

end Incidence

theorem Usage.eq_both_iff {u : Usage} : u = .both ↔ u.arrive = true ∧ u.leave = true := by
  cases u
  simp [both]

theorem Arm.isOpen_iff {a : Arm K} : a.isOpen = true ↔ a.usage.arrive = true ∨ a.usage.leave = true :=
  Bool.or_eq_true_iff

/-! ## Layouts -/

namespace Neighborhood

/-- What the arms of a node are like in each layout. -/
inductive LaidOut (n : Neighborhood K) : Layout K → Prop
  | closed (shut : (∀ a ∈ n.arms, a.usage.arrive = false) ∨ ∀ a ∈ n.arms, a.usage.leave = false) : LaidOut n .closed
  | free (arrive : ∃ a ∈ n.arms, a.usage.arrive = true) (leave : ∃ a ∈ n.arms, a.usage.leave = true)
      (wide : 3 ≤ n.arms.length ∨ ∃ a b, n.arms = [a, b] ∧ a.far = b.far) : LaidOut n .free
  | deadEnd (arm : Arm K) (alone : n.arms.filter Arm.isOpen = [arm]) (both : arm.usage = .both)
      (narrow : n.arms = [arm] ∨ ∃ a b, n.arms = [a, b] ∧ a.far ≠ b.far) : LaidOut n (.deadEnd arm)
  | oneWay (a b : Arm K) (arms : n.arms = [a, b] ∨ n.arms = [b, a]) (apart : a.far ≠ b.far)
      (arrive : a.usage.arrive = true) (leave : b.usage.leave = true)
      (single : ¬(b.usage.arrive = true ∧ a.usage.leave = true)) : LaidOut n (.oneWay a b)
  | twoWay (a b : Arm K) (arms : n.arms = [a, b]) (apart : a.far ≠ b.far) (first : a.usage = .both)
      (second : b.usage = .both) : LaidOut n (.twoWay a b)

theorem arrivals_eq_zero {n : Neighborhood K} : n.arrivals = 0 ↔ ∀ a ∈ n.arms, a.usage.arrive = false := by
  simp [arrivals]

theorem departures_eq_zero {n : Neighborhood K} : n.departures = 0 ↔ ∀ a ∈ n.arms, a.usage.leave = false := by
  simp [departures]

/-- Two arms to different nodes that let traffic arrive and leave are laid out as `Layout.ofPair` says. -/
theorem laidOut_ofPair {n : Neighborhood K} {a b : Arm K} (arms : n.arms = [a, b]) (apart : a.far ≠ b.far)
    (arrive : ∃ c ∈ n.arms, c.usage.arrive = true) (leave : ∃ c ∈ n.arms, c.usage.leave = true) :
    n.LaidOut (.ofPair a b) := by
  have narrow : ∀ c, n.arms = [c] ∨ ∃ a b, n.arms = [a, b] ∧ a.far ≠ b.far := fun c => .inr ⟨a, b, arms, apart⟩
  simp only [arms, List.mem_cons, List.not_mem_nil, or_false, exists_eq_or_imp, exists_eq_left] at arrive leave
  unfold Layout.ofPair
  split
  case isTrue shut =>
    have shut : a.usage.arrive = false ∧ a.usage.leave = false := by simpa [Arm.isOpen, Usage.isOpen] using shut
    have both : b.usage = .both := Usage.eq_both_iff.2 ⟨by simpa [shut] using arrive, by simpa [shut] using leave⟩
    exact .deadEnd b (by simp [arms, Arm.isOpen, Usage.isOpen, shut, both, Usage.both]) both (narrow b)
  case isFalse aOpen =>
    split
    case isTrue shut =>
      have shut : b.usage.arrive = false ∧ b.usage.leave = false := by simpa [Arm.isOpen, Usage.isOpen] using shut
      have both : a.usage = .both := Usage.eq_both_iff.2 ⟨by simpa [shut] using arrive, by simpa [shut] using leave⟩
      exact .deadEnd a (by simp [arms, Arm.isOpen, Usage.isOpen, shut, both, Usage.both]) both (narrow a)
    case isFalse bOpen =>
      simp only [Bool.not_eq_true', Bool.not_eq_false, Arm.isOpen_iff] at aOpen bOpen
      split
      case isTrue both => exact .twoWay a b arms apart both.1 both.2
      case isFalse oneWay =>
        simp only [Usage.eq_both_iff, not_and] at oneWay
        split
        case isTrue first =>
          simp only [Bool.or_eq_true, Bool.not_eq_true'] at first
          refine .oneWay a b (.inl arms) apart ?_ ?_ ?_ <;> grind
        case isFalse second =>
          simp only [Bool.or_eq_true, Bool.not_eq_true', not_or, Bool.not_eq_false] at second
          refine .oneWay b a (.inr arms) apart.symm second.2 second.1 fun h => ?_
          exact oneWay ⟨h.1, second.1⟩ second.2 h.2

/-- A node is laid out as its layout says. -/
theorem laidOut_layout (n : Neighborhood K) : n.LaidOut n.layout := by
  unfold layout
  split
  case isTrue shut =>
    rw [arrivals_eq_zero, departures_eq_zero] at shut
    exact .closed shut
  case isFalse flows =>
    simp only [arrivals_eq_zero, departures_eq_zero, not_or, Classical.not_forall, Bool.not_eq_false,
      exists_prop] at flows
    obtain ⟨arrive, leave⟩ := flows
    split
    case h_1 arms => simp [arms] at arrive
    case h_2 a arms =>
      have both : a.usage = .both := Usage.eq_both_iff.2 ⟨by simpa [arms] using arrive, by simpa [arms] using leave⟩
      exact .deadEnd a (by simp [arms, Arm.isOpen, both, Usage.isOpen, Usage.both]) both (.inl arms)
    case h_3 a b arms =>
      split
      case isTrue same => exact .free arrive leave (.inr ⟨a, b, arms, same⟩)
      case isFalse apart => exact laidOut_ofPair arms apart arrive leave
    case h_4 more single pair =>
      refine .free arrive leave (.inl ?_)
      match h : n.arms with
      | [] => exact absurd h more
      | [a] => exact absurd h (single a)
      | [a, b] => exact absurd h (pair a b)
      | _ :: _ :: _ :: _ => simp

end Neighborhood

/-! ## Resolutions that have an answer -/

/-- What a node at a position is like for driving, given what may be driven. -/
def RoadView.neighborhood (view : RoadView K) (allows : Openness) (node : NodeId) (position : Point K) :
    Neighborhood K :=
  ⟨node, position, (view.incidences node).map (·.arm allows)⟩

/-- The survey of a known node is its neighbourhood. -/
theorem survey_eq_neighborhood {view : RoadView K} {allows : Openness} {node : NodeId} {position : Point K}
    (known : view.position? node = some position) :
    survey view allows node = .ok (view.neighborhood allows node position) := by
  rw [survey_eq, known]
  rfl

/-- A query is answered iff it is on the globe and the node exists, and the node's neighbourhood gives the answer. -/
theorem resolve_eq_ok_iff [Scalar K] {view : RoadView K} {allows : Openness} {rule : SideRule K} {node : NodeId}
    {query : Point K} {d : Directions} :
    resolve view allows rule node query = .ok d ↔ query.isOnGlobe = true ∧ ∃ position,
      view.position? node = some position ∧ d = (view.neighborhood allows node position).directions rule query := by
  rw [resolve_eq, survey_eq, Point.checked]
  split
  case isTrue on =>
    cases view.position? node with
    | none => simp [Except.bind, Except.map]
    | some position => simp [Except.bind, Except.map, on, RoadView.neighborhood, eq_comm]
  case isFalse off => simp [Except.bind, off]

end Roadside
