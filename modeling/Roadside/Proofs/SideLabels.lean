import Roadside.Proofs.Decision
import Roadside.Script

/-!
# Whose side a pairing is on

A pairing is placed on a side of the road. Where traffic can pass in one direction only, it is the side on which that
traffic sees the query. Where it can pass both ways, the edge that is listed first tells the sides of both pairings, and
the second pairing is on the opposite side, whatever its own traffic sees.

* **Sides are told by arriving traffic** (`resolve_labelled`): where two edges lead to different nodes and neither is
  shut, a single pairing and the first one of a two-way road are on the side on which the traffic arriving on their edge
  sees the query, and the second pairing is on the opposite side of the first.
* **At a corner a pairing can be on a side that its own traffic does not see** (`not_seenOnArrival_corner`), though the
  query is off the lines of both streets.
-/

namespace Roadside

variable {K : Type}

/-- Unless it is a tie, every pairing is on the side on which the traffic arriving on its edge sees the query. -/
def SeenOnArrival [Scalar K] (rule : SideRule K) (position query : Point K) (listed : List (Incidence K))
    (d : Directions) : Prop :=
  ∀ s p, d.pairing? s = some p → ∀ i ∈ listed, i.edge = p.arrive →
    rule.isTie (position.headingTo i.anchor) (position.headingTo query) = false → s = rule.sideOf position query i

/-- Traffic can arrive on one edge and leave on the other. -/
def Incidence.LeadsTo (allows : Openness) (x y : Incidence K) : Prop :=
  x.arrives allows = true ∧ y.leaves allows = true

/-- Whose arriving traffic tells the sides of the pairings of `a` and `b`, the edges in the order in which they are
listed. -/
structure Labelled (allows : Openness) (side : Incidence K → Side) (a b : Incidence K) (d : Directions) : Prop where
  /-- Where traffic can pass both ways there are two pairings. The one that leads in on the first edge is on the side
  that its own arriving traffic tells, and the other one is on the opposite side. -/
  twoWay : a.LeadsTo allows b → b.LeadsTo allows a → (∃ right left, d = .both right left) ∧
    d.pairing? (side a) = some ⟨a.edge, b.edge⟩ ∧ d.pairing? (side a).opposite = some ⟨b.edge, a.edge⟩
  /-- For the arriving traffic of the other one this is the side that it tells too, unless it tells the same side as
  that of the first. -/
  second : a.LeadsTo allows b → b.LeadsTo allows a →
    d.pairing? (if side b = side a then (side b).opposite else side b) = some ⟨b.edge, a.edge⟩
  /-- A single pairing is on the side that its own arriving traffic tells. -/
  oneWay : ∀ x y, x = a ∧ y = b ∨ x = b ∧ y = a → x.LeadsTo allows y → ¬y.LeadsTo allows x →
    d = .only (side x) ⟨x.edge, y.edge⟩
  shut : ¬a.LeadsTo allows b → ¬b.LeadsTo allows a → d = .impossible

section Cases

variable {allows : Openness} {side : Incidence K → Side} {a b x y : Incidence K} {listed : List (Incidence K)}
  {d : Directions}

/-- With one way to pass there is one pairing. -/
theorem Pairs.eq_of_oneWay (h : Pairs allows side listed d) (pair : listed = [x, y] ∨ listed = [y, x])
    (passes : x.LeadsTo allows y) (single : ¬y.LeadsTo allows x) : d = .only (side x) ⟨x.edge, y.edge⟩ := by
  cases h with
  | deadEnd u alone =>
    rcases pair with rfl | rfl <;> simp [isUsable_of_arrives passes.1, isUsable_of_leaves passes.2] at alone
  | twoWay a b pair' first second =>
    rcases pair with rfl | rfl
    · obtain ⟨rfl, rfl⟩ : x = a ∧ y = b := by simpa using pair'
      exact absurd ⟨second.1, first.2⟩ single
    · obtain ⟨rfl, rfl⟩ : y = a ∧ x = b := by simpa using pair'
      exact absurd ⟨first.1, second.2⟩ single
  | oneWay x' y' pair' arrive leave =>
    obtain ⟨rfl, rfl⟩ | ⟨rfl, rfl⟩ : x = x' ∧ y = y' ∨ y = x' ∧ x = y' := by
      rcases pair with rfl | rfl
      · simpa [and_comm] using pair'
      · simpa [and_comm, or_comm] using pair'
    · rfl
    · exact absurd ⟨arrive, leave⟩ single

/-- Where traffic can use both edges and pass neither way, it cannot arrive or cannot leave. -/
theorem not_flows_of_not_leadsTo (first : a.isUsable allows = true) (second : b.isUsable allows = true)
    (there : ¬a.LeadsTo allows b) (back : ¬b.LeadsTo allows a) : ¬Flows allows [a, b] := by
  simp only [Incidence.isUsable, Bool.or_eq_true] at first second
  simp only [Incidence.LeadsTo] at there back
  simp only [Flows, List.mem_cons, List.not_mem_nil, or_false, exists_eq_or_imp, exists_eq_left]
  grind

theorem Resolves.labelled (h : Resolves allows side [a, b] d) (apart : a.far ≠ b.far)
    (first : a.isUsable allows = true) (second : b.isUsable allows = true) : Labelled allows side a b d := by
  have sparse : ¬Crowded [a, b] := by simp [not_crowded_iff, apart]
  have both (there : a.LeadsTo allows b) (back : b.LeadsTo allows a) :
      d = .paired (side a) ⟨a.edge, b.edge⟩ ⟨b.edge, a.edge⟩ :=
    (h.pairs ⟨⟨a, by simp, there.1⟩, b, by simp, there.2⟩ sparse).eq_of_twoWay rfl ⟨there.1, back.2⟩ ⟨back.1, there.2⟩
  constructor
  case twoWay =>
    intro there back
    rw [both there back]
    exact ⟨by cases side a <;> exact ⟨_, _, rfl⟩, Directions.pairing?_paired .., Directions.pairing?_paired_opposite ..⟩
  case second =>
    intro there back
    have opposite : (if side b = side a then (side b).opposite else side b) = (side a).opposite := by
      cases side a <;> cases side b <;> rfl
    rw [both there back, opposite]
    exact Directions.pairing?_paired_opposite ..
  case oneWay =>
    intro x y order passes single
    have pair : [a, b] = [x, y] ∨ [a, b] = [y, x] := by
      rcases order with ⟨rfl, rfl⟩ | ⟨rfl, rfl⟩ <;> simp
    obtain ⟨hx, hy⟩ := mem_of_pair pair
    exact (h.pairs ⟨⟨x, hx, passes.1⟩, y, hy, passes.2⟩ sparse).eq_of_oneWay pair passes single
  case shut => exact fun there back => h.impossible_iff.2 (not_flows_of_not_leadsTo first second there back)

end Cases

/-- **Sides are told by arriving traffic**: at a node with two edges that lead to different nodes, neither of them shut,
there are directions for every query on the globe. The side of a single pairing is told by the traffic arriving on its
edge, and the sides of two pairings by the traffic arriving on the first edge. -/
theorem resolve_labelled [Scalar K] {view : RoadView K} {allows : Openness} {rule : SideRule K} {node : NodeId}
    {position query : Point K} {a b : Incidence K} (onGlobe : query.isOnGlobe = true)
    (known : view.position? node = some position) (listed : view.incidences node = [a, b]) (apart : a.far ≠ b.far)
    (first : a.isUsable allows = true) (second : b.isUsable allows = true) :
    ∃ d, resolve view allows rule node query = .ok d ∧ Labelled allows (rule.sideOf position query) a b d := by
  obtain ⟨d, answer, resolves⟩ := exists_resolves allows rule onGlobe known
  rw [listed] at resolves
  exact ⟨d, answer, resolves.labelled apart first second⟩

/-- A street to the east and a street to the north meet at a corner. -/
def corner : List (Step Float) :=
  [.node ⟨0, 1⟩, .node ⟨0, 0⟩, .node ⟨1, 0⟩, .segment (.straight ⟨0⟩ ⟨1⟩ .both), .segment (.straight ⟨1⟩ ⟨2⟩ .both)]

/-- The halves of the corner, as they are listed there. -/
def cornerHalves : Incidence Float × Incidence Float :=
  (⟨⟨0⟩, ⟨0⟩, .backward, ⟨0, 1⟩⟩, ⟨⟨1⟩, ⟨2⟩, .forward, ⟨1, 0⟩⟩)

/-- A place to the south-east, off the lines of both streets. -/
def outsideCorner : Point Float := ⟨-1, 1⟩

theorem resolve_labelled_corner :
    let map := mapOf corner
    outsideCorner.isOnGlobe = true ∧ map.view.position? ⟨1⟩ = some ⟨0, 0⟩ ∧
      map.view.incidences ⟨1⟩ = [cornerHalves.1, cornerHalves.2] ∧ cornerHalves.1.far ≠ cornerHalves.2.far ∧
      cornerHalves.1.isUsable map.allows = true ∧ cornerHalves.2.isUsable map.allows = true ∧
      ∃ d, resolve map.view map.allows .standard ⟨1⟩ outsideCorner = .ok d ∧
        Labelled map.allows (SideRule.standard.sideOf ⟨0, 0⟩ outsideCorner) cornerHalves.1 cornerHalves.2 d := by
  intro map
  have onGlobe : outsideCorner.isOnGlobe = true := by decide +kernel
  have known : map.view.position? ⟨1⟩ = some ⟨0, 0⟩ := by decide +kernel
  have listed : map.view.incidences ⟨1⟩ = [cornerHalves.1, cornerHalves.2] := by decide +kernel
  have apart : cornerHalves.1.far ≠ cornerHalves.2.far := by decide
  have first : cornerHalves.1.isUsable map.allows = true := by decide +kernel
  have second : cornerHalves.2.isUsable map.allows = true := by decide +kernel
  exact ⟨onGlobe, known, listed, apart, first, second, resolve_labelled onGlobe known listed apart first second⟩

/-- The traffic arriving on either street sees the query on the left, and it is no tie. The pairing that leads in from
the north is on the right. -/
theorem not_seenOnArrival_corner :
    let map := mapOf corner
    let d : Directions := .both ⟨⟨1⟩, ⟨0⟩⟩ ⟨⟨0⟩, ⟨1⟩⟩
    SideRule.isSound (SideRule.standard : SideRule Float) = true ∧ outsideCorner.isOnGlobe = true ∧
      map.view.position? ⟨1⟩ = some ⟨0, 0⟩ ∧ map.view.incidences ⟨1⟩ = [cornerHalves.1, cornerHalves.2] ∧
      cornerHalves.1.far ≠ cornerHalves.2.far ∧ cornerHalves.1.isUsable map.allows = true ∧
      cornerHalves.2.isUsable map.allows = true ∧
      (∀ i ∈ map.view.incidences ⟨1⟩, SideRule.standard.isTie ((⟨0, 0⟩ : Point Float).headingTo i.anchor)
        ((⟨0, 0⟩ : Point Float).headingTo outsideCorner) = false ∧
        SideRule.standard.sideOf ⟨0, 0⟩ outsideCorner i = .left) ∧
      resolve map.view map.allows .standard ⟨1⟩ outsideCorner = .ok d ∧
      ¬SeenOnArrival .standard ⟨0, 0⟩ outsideCorner (map.view.incidences ⟨1⟩) d := by
  intro map d
  have listed : map.view.incidences ⟨1⟩ = [cornerHalves.1, cornerHalves.2] := by decide +kernel
  have left : ∀ i ∈ map.view.incidences ⟨1⟩, SideRule.standard.isTie ((⟨0, 0⟩ : Point Float).headingTo i.anchor)
      ((⟨0, 0⟩ : Point Float).headingTo outsideCorner) = false ∧
      SideRule.standard.sideOf ⟨0, 0⟩ outsideCorner i = .left := by decide +kernel
  have answer : resolve map.view map.allows .standard ⟨1⟩ outsideCorner = .ok d :=
    resolve_eq_ok_iff.2 ⟨by decide +kernel, ⟨0, 0⟩, by decide +kernel, by decide +kernel⟩
  refine ⟨by decide +kernel, by decide +kernel, by decide +kernel, listed, by decide, by decide +kernel,
    by decide +kernel, left, answer, fun seen => ?_⟩
  have north : cornerHalves.2 ∈ map.view.incidences ⟨1⟩ := by simp [listed]
  obtain ⟨decides, left⟩ := left _ north
  have right : Side.right = SideRule.standard.sideOf ⟨0, 0⟩ outsideCorner cornerHalves.2 :=
    seen .right _ rfl cornerHalves.2 north rfl decides
  rw [left] at right
  cases right

end Roadside
