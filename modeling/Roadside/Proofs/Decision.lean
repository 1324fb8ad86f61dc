import Mathlib.Data.List.Nodup
import Roadside.Proofs.Layout

/-!
# The decision, said on the listed edges

What the directions at a node are depends on the edges that are listed there, on the nodes they lead to and on the
directions in which they are open, and beyond that only on the side of the query. `Decided` says what they are, without
arms or layouts.

* **Every known node has directions** for every query on the globe, and they are decided so (`resolve_decided`).
* `Resolves` is the decision as a relation with one constructor for each outcome; it is how other proofs take directions
  apart (`exists_resolves`).
-/

namespace Roadside

variable {K : Type}

/-! ## What is listed at a node -/

/-- Traffic can arrive at the node, and it can leave. -/
def Flows (allows : Openness) (listed : List (Incidence K)) : Prop :=
  (∃ i ∈ listed, i.arrives allows = true) ∧ ∃ i ∈ listed, i.leaves allows = true

/-- There are more than two edges, open or not, or there are two and both lead to the same node. -/
def Crowded (listed : List (Incidence K)) : Prop :=
  3 ≤ listed.length ∨ ∃ a b, listed = [a, b] ∧ a.far = b.far

/-- Traffic can arrive on the listed edge with number `i` and leave on another one, with number `j`. -/
def CanPass (allows : Openness) (listed : List (Incidence K)) (i j : Nat) : Prop :=
  i ≠ j ∧ (∃ x, listed[i]? = some x ∧ x.arrives allows = true) ∧ ∃ y, listed[j]? = some y ∧ y.leaves allows = true

/-- The directions at a node with these edges, where `side` tells on which side the traffic arriving on an edge sees the
query. -/
structure Decided (allows : Openness) (side : Incidence K → Side) (listed : List (Incidence K)) (d : Directions) :
    Prop where
  impossible : d = .impossible ↔ (∀ i ∈ listed, i.arrives allows = false) ∨ ∀ i ∈ listed, i.leaves allows = false
  unrestricted : d = .unrestricted ↔ Flows allows listed ∧ Crowded listed
  /-- One usable edge serves both purposes on both sides, whether or not a shut one lies beside it. -/
  deadEnd : Flows allows listed → ¬Crowded listed → ∀ u, listed.filter (·.isUsable allows) = [u] →
    d = .both (.uTurn u.edge) (.uTurn u.edge)
  /-- On a two-way road the first listed edge tells the side on which one arrives on it. -/
  twoWay : Flows allows listed → ¬Crowded listed → ∀ a b, listed = [a, b] →
    a.arrives allows = true ∧ a.leaves allows = true → b.arrives allows = true ∧ b.leaves allows = true →
    d = .paired (side a) ⟨a.edge, b.edge⟩ ⟨b.edge, a.edge⟩
  /-- Otherwise there is one way to pass, and the edge to arrive on tells the side. -/
  oneWay : Flows allows listed → ¬Crowded listed → (¬∃ u, listed.filter (·.isUsable allows) = [u]) →
    (¬∃ a b, listed = [a, b] ∧ (a.arrives allows = true ∧ a.leaves allows = true) ∧
      b.arrives allows = true ∧ b.leaves allows = true) →
    ∃ (i j : Nat) (x y : Incidence K), (∀ i' j', CanPass allows listed i' j' ↔ i' = i ∧ j' = j) ∧
      listed[i]? = some x ∧ listed[j]? = some y ∧ d = .only (side x) ⟨x.edge, y.edge⟩

/-! ## Case by case -/

/-- The pairings of edges that are not crowded. -/
inductive Pairs (allows : Openness) (side : Incidence K → Side) (listed : List (Incidence K)) : Directions → Prop
  | deadEnd (u : Incidence K) (alone : listed.filter (·.isUsable allows) = [u]) (arrive : u.arrives allows = true)
      (leave : u.leaves allows = true) : Pairs allows side listed (.both (.uTurn u.edge) (.uTurn u.edge))
  | twoWay (a b : Incidence K) (pair : listed = [a, b]) (first : a.arrives allows = true ∧ a.leaves allows = true)
      (second : b.arrives allows = true ∧ b.leaves allows = true) :
      Pairs allows side listed (.paired (side a) ⟨a.edge, b.edge⟩ ⟨b.edge, a.edge⟩)
  | oneWay (x y : Incidence K) (pair : listed = [x, y] ∨ listed = [y, x]) (arrive : x.arrives allows = true)
      (leave : y.leaves allows = true) (single : ¬(y.arrives allows = true ∧ x.leaves allows = true)) :
      Pairs allows side listed (.only (side x) ⟨x.edge, y.edge⟩)

/-- The directions at a node, by the edges listed there. -/
inductive Resolves (allows : Openness) (side : Incidence K → Side) (listed : List (Incidence K)) : Directions → Prop
  | impossible (shut : ¬Flows allows listed) : Resolves allows side listed .impossible
  | unrestricted (flows : Flows allows listed) (crowded : Crowded listed) : Resolves allows side listed .unrestricted
  | restricted {d : Directions} (sparse : ¬Crowded listed) (pairs : Pairs allows side listed d) :
      Resolves allows side listed d

section Cases

variable {allows : Openness} {side : Incidence K → Side} {listed : List (Incidence K)} {d : Directions}

theorem not_flows_iff : ¬Flows allows listed ↔
    (∀ i ∈ listed, i.arrives allows = false) ∨ ∀ i ∈ listed, i.leaves allows = false := by
  rw [Flows, not_and_or]
  simp

/-- Edges are crowded unless there are at most two of them and they lead to different nodes. -/
theorem not_crowded_iff : ¬Crowded listed ↔ listed.length ≤ 2 ∧ (listed.map (·.far)).Nodup := by
  match listed with
  | [] => simp [Crowded]
  | [a] => simp [Crowded]
  | [a, b] => simp [Crowded]
  | _ :: _ :: _ :: _ => simp [Crowded]

/-- Edges that are not crowded are told apart by the nodes they lead to. -/
theorem eq_of_far_eq (sparse : ¬Crowded listed) {x y : Incidence K} (hx : x ∈ listed) (hy : y ∈ listed)
    (same : x.far = y.far) : x = y :=
  List.inj_on_of_nodup_map (not_crowded_iff.1 sparse).2 hx hy same

theorem isUsable_of_arrives {i : Incidence K} (h : i.arrives allows = true) : i.isUsable allows = true := by
  simp [Incidence.isUsable, h]

theorem isUsable_of_leaves {i : Incidence K} (h : i.leaves allows = true) : i.isUsable allows = true := by
  simp [Incidence.isUsable, h]

theorem mem_of_alone {u : Incidence K} (alone : listed.filter (·.isUsable allows) = [u]) : u ∈ listed :=
  (List.mem_filter.1 (alone ▸ List.mem_singleton_self u)).1

theorem mem_of_pair {x y : Incidence K} (pair : listed = [x, y] ∨ listed = [y, x]) : x ∈ listed ∧ y ∈ listed := by
  rcases pair with rfl | rfl <;> simp

/-- With one way to pass, from `x` to `y`, no other two numbers make a passage. -/
theorem canPass_iff {x y : Incidence K} (arrive : x.arrives allows = true) (leave : y.leaves allows = true)
    (single : ¬(y.arrives allows = true ∧ x.leaves allows = true)) (i j : Nat) :
    (CanPass allows [x, y] i j ↔ i = 0 ∧ j = 1) ∧ (CanPass allows [y, x] i j ↔ i = 1 ∧ j = 0) := by
  match i, j with
  | 0, 0 | 1, 1 => simp [CanPass]
  | 0, 1 | 1, 0 => simp [CanPass, arrive, leave]; grind
  | i + 2, _ => simp [CanPass]
  | 0, j + 2 | 1, j + 2 => simp [CanPass]

/-! ### Pairings -/

namespace Pairs

theorem isRestricted (h : Pairs allows side listed d) : d.isRestricted = true := by
  cases h with
  | deadEnd | oneWay => rfl
  | twoWay a => cases side a <;> rfl

/-- A pairing leads in on a listed edge and out on one to a different node, or it turns back on the only usable edge. -/
theorem exists_of_pairing? (h : Pairs allows side listed d) (sparse : ¬Crowded listed) {s : Side} {p : Pairing}
    (hp : d.pairing? s = some p) : ∃ x ∈ listed, ∃ y ∈ listed, x.arrives allows = true ∧ y.leaves allows = true ∧
      p = ⟨x.edge, y.edge⟩ ∧ (x = y ∧ listed.filter (·.isUsable allows) = [x] ∨ x.far ≠ y.far) := by
  have apart {a b : Incidence K} (pair : listed = [a, b]) : a.far ≠ b.far :=
    fun same => sparse (.inr ⟨a, b, pair, same⟩)
  cases h with
  | deadEnd u alone arrive leave =>
    refine ⟨u, mem_of_alone alone, u, mem_of_alone alone, arrive, leave, ?_, .inl ⟨rfl, alone⟩⟩
    cases s <;> exact (Option.some.inj hp).symm
  | twoWay a b pair first second =>
    obtain ⟨ha, hb⟩ := mem_of_pair (.inl pair)
    have either : p = ⟨a.edge, b.edge⟩ ∨ p = ⟨b.edge, a.edge⟩ := by
      generalize side a = t at hp
      cases t <;> cases s <;> cases hp <;> simp
    rcases either with rfl | rfl
    · exact ⟨a, ha, b, hb, first.1, second.2, rfl, .inr (apart pair)⟩
    · exact ⟨b, hb, a, ha, second.1, first.2, rfl, .inr (apart pair).symm⟩
  | oneWay x y pair arrive leave =>
    obtain ⟨hx, hy⟩ := mem_of_pair pair
    have hp : p = ⟨x.edge, y.edge⟩ := by
      generalize side x = t at hp
      cases t <;> cases s <;> cases hp <;> rfl
    exact ⟨x, hx, y, hy, arrive, leave, hp, .inr (pair.elim apart fun pair => (apart pair).symm)⟩

theorem flows (h : Pairs allows side listed d) : Flows allows listed := by
  cases h with
  | deadEnd u alone arrive leave => exact ⟨⟨u, mem_of_alone alone, arrive⟩, u, mem_of_alone alone, leave⟩
  | twoWay a b pair first =>
    obtain ⟨ha, -⟩ := mem_of_pair (.inl pair)
    exact ⟨⟨a, ha, first.1⟩, a, ha, first.2⟩
  | oneWay x y pair arrive leave =>
    obtain ⟨hx, hy⟩ := mem_of_pair pair
    exact ⟨⟨x, hx, arrive⟩, y, hy, leave⟩

/-! The conditions of the three cases exclude one another, so each of them tells the pairings. -/

theorem eq_of_alone (h : Pairs allows side listed d) {u : Incidence K}
    (alone : listed.filter (·.isUsable allows) = [u]) : d = .both (.uTurn u.edge) (.uTurn u.edge) := by
  cases h with
  | deadEnd v alone' =>
    obtain rfl : v = u := by simpa [alone] using alone'.symm
    rfl
  | twoWay a b pair first second =>
    simp [pair, isUsable_of_arrives first.1, isUsable_of_arrives second.1] at alone
  | oneWay x y pair arrive leave =>
    rcases pair with rfl | rfl <;> simp [isUsable_of_arrives arrive, isUsable_of_leaves leave] at alone

theorem eq_of_twoWay (h : Pairs allows side listed d) {a b : Incidence K} (pair : listed = [a, b])
    (first : a.arrives allows = true ∧ a.leaves allows = true)
    (second : b.arrives allows = true ∧ b.leaves allows = true) :
    d = .paired (side a) ⟨a.edge, b.edge⟩ ⟨b.edge, a.edge⟩ := by
  cases h with
  | deadEnd v alone =>
    simp [pair, isUsable_of_arrives first.1, isUsable_of_arrives second.1] at alone
  | twoWay a' b' pair' =>
    obtain ⟨rfl, rfl⟩ : a' = a ∧ b' = b := by simpa [pair] using pair'.symm
    rfl
  | oneWay x y pair' _ _ single =>
    simp only [pair, List.cons.injEq, and_true] at pair'
    rcases pair' with ⟨rfl, rfl⟩ | ⟨rfl, rfl⟩
    · exact absurd ⟨second.1, first.2⟩ single
    · exact absurd ⟨first.1, second.2⟩ single

theorem exists_canPass (h : Pairs allows side listed d) (several : ¬∃ u, listed.filter (·.isUsable allows) = [u])
    (oneWay : ¬∃ a b, listed = [a, b] ∧ (a.arrives allows = true ∧ a.leaves allows = true) ∧
      b.arrives allows = true ∧ b.leaves allows = true) :
    ∃ (i j : Nat) (x y : Incidence K), (∀ i' j', CanPass allows listed i' j' ↔ i' = i ∧ j' = j) ∧
      listed[i]? = some x ∧ listed[j]? = some y ∧ d = .only (side x) ⟨x.edge, y.edge⟩ := by
  cases h with
  | deadEnd u alone => exact absurd ⟨u, alone⟩ several
  | twoWay a b pair first second => exact absurd ⟨a, b, pair, first, second⟩ oneWay
  | oneWay x y pair arrive leave single =>
    rcases pair with rfl | rfl
    · exact ⟨0, 1, x, y, fun i j => (canPass_iff arrive leave single i j).1, rfl, rfl, rfl⟩
    · exact ⟨1, 0, x, y, fun i j => (canPass_iff arrive leave single i j).2, rfl, rfl, rfl⟩

end Pairs

/-! ### Outcomes -/

namespace Resolves

theorem impossible_iff (h : Resolves allows side listed d) : d = .impossible ↔ ¬Flows allows listed := by
  constructor
  · rintro rfl
    cases h with
    | impossible shut => exact shut
    | restricted _ pairs => cases pairs.isRestricted
  · intro shut
    cases h with
    | impossible => rfl
    | unrestricted flows => exact absurd flows shut
    | restricted _ pairs => exact absurd pairs.flows shut

theorem unrestricted_iff (h : Resolves allows side listed d) :
    d = .unrestricted ↔ Flows allows listed ∧ Crowded listed := by
  constructor
  · rintro rfl
    cases h with
    | unrestricted flows crowded => exact ⟨flows, crowded⟩
    | restricted _ pairs => cases pairs.isRestricted
  · rintro ⟨flows, crowded⟩
    cases h with
    | impossible shut => exact absurd flows shut
    | unrestricted => rfl
    | restricted sparse => exact absurd crowded sparse

theorem pairs (h : Resolves allows side listed d) (flows : Flows allows listed) (sparse : ¬Crowded listed) :
    Pairs allows side listed d := by
  cases h with
  | impossible shut => exact absurd flows shut
  | unrestricted _ crowded => exact absurd crowded sparse
  | restricted _ pairs => exact pairs

theorem decided (h : Resolves allows side listed d) : Decided allows side listed d where
  impossible := h.impossible_iff.trans not_flows_iff
  unrestricted := h.unrestricted_iff
  deadEnd flows sparse _ := (h.pairs flows sparse).eq_of_alone
  twoWay flows sparse _ _ := (h.pairs flows sparse).eq_of_twoWay
  oneWay flows sparse := (h.pairs flows sparse).exists_canPass

end Resolves

end Cases

/-! ## Resolutions -/

/-- The side on which the traffic arriving on a listed edge sees a query, from a node at a position. -/
def SideRule.sideOf [Scalar K] (rule : SideRule K) (position query : Point K) (i : Incidence K) : Side :=
  rule.side (position.headingTo i.anchor) (position.headingTo query)

section Neighborhood

variable {view : RoadView K} {allows : Openness} {node : NodeId} {position : Point K}

theorem RoadView.exists_pair_of_arms {a b : Arm K} (h : (view.neighborhood allows node position).arms = [a, b]) :
    ∃ x y, view.incidences node = [x, y] ∧ x.arm allows = a ∧ y.arm allows = b := by
  simp only [neighborhood, List.map_eq_cons_iff, List.map_eq_nil_iff] at h
  obtain ⟨x, _, listed, hx, y, _, rfl, hy, rfl⟩ := h
  exact ⟨x, y, listed, hx, hy⟩

theorem not_crowded_of_arms {a b : Arm K} (arms : (view.neighborhood allows node position).arms = [a, b])
    (apart : a.far ≠ b.far) : ¬Crowded (view.incidences node) := by
  obtain ⟨x, y, listed, rfl, rfl⟩ := RoadView.exists_pair_of_arms arms
  have apart : x.far ≠ y.far := apart
  simp [listed, not_crowded_iff, apart]

/-- The layout of a node resolves its listed edges. -/
theorem resolves_directions [Scalar K] (rule : SideRule K) (query : Point K) :
    Resolves allows (rule.sideOf position query) (view.incidences node)
      ((view.neighborhood allows node position).directions rule query) := by
  have laid := (view.neighborhood allows node position).laidOut_layout
  unfold Neighborhood.directions
  generalize (view.neighborhood allows node position).layout = l at laid ⊢
  cases laid with
  | closed shut =>
    simp only [RoadView.neighborhood, List.forall_mem_map] at shut
    exact .impossible (not_flows_iff.2 shut)
  | free arrive leave wide =>
    have flows : Flows allows (view.incidences node) := by
      simpa [RoadView.neighborhood, Flows] using And.intro arrive leave
    rcases wide with wide | ⟨a, b, arms, same⟩
    · exact .unrestricted flows (.inl (by simpa [RoadView.neighborhood] using wide))
    · obtain ⟨x, y, listed, rfl, rfl⟩ := RoadView.exists_pair_of_arms arms
      exact .unrestricted flows (.inr ⟨x, y, listed, same⟩)
  | deadEnd arm alone both narrow =>
    have sparse : ¬Crowded (view.incidences node) := by
      rcases narrow with single | ⟨a, b, arms, apart⟩
      · obtain ⟨x, listed, -⟩ := List.map_eq_singleton_iff.1 single
        simp [listed, not_crowded_iff]
      · exact not_crowded_of_arms arms apart
    rw [RoadView.neighborhood, List.filter_map] at alone
    obtain ⟨u, hu, rfl⟩ := List.map_eq_singleton_iff.1 alone
    obtain ⟨arrive, leave⟩ : u.arrives allows = true ∧ u.leaves allows = true := Usage.eq_both_iff.1 both
    exact .restricted sparse (.deadEnd u hu arrive leave)
  | oneWay a b arms apart arrive leave single =>
    rcases arms with arms | arms
    · have sparse := not_crowded_of_arms arms apart
      obtain ⟨x, y, listed, rfl, rfl⟩ := RoadView.exists_pair_of_arms arms
      exact .restricted sparse (.oneWay x y (.inl listed) arrive leave single)
    · have sparse := not_crowded_of_arms arms apart.symm
      obtain ⟨y, x, listed, rfl, rfl⟩ := RoadView.exists_pair_of_arms arms
      exact .restricted sparse (.oneWay x y (.inr listed) arrive leave single)
  | twoWay a b arms apart first second =>
    have sparse := not_crowded_of_arms arms apart
    obtain ⟨x, y, listed, rfl, rfl⟩ := RoadView.exists_pair_of_arms arms
    exact .restricted sparse (.twoWay x y listed (Usage.eq_both_iff.1 first) (Usage.eq_both_iff.1 second))

/-- A known node has directions for a query on the globe, and its listed edges resolve to them. -/
theorem exists_resolves [Scalar K] (allows : Openness) (rule : SideRule K) {query : Point K}
    (onGlobe : query.isOnGlobe = true) (known : view.position? node = some position) :
    ∃ d, resolve view allows rule node query = .ok d ∧
      Resolves allows (rule.sideOf position query) (view.incidences node) d :=
  ⟨_, resolve_eq_ok_iff.2 ⟨onGlobe, position, known, rfl⟩, resolves_directions rule query⟩

/-- **The decision is complete**: a known node has directions for every query on the globe, and the edges listed there
decide which. -/
theorem resolve_decided [Scalar K] (allows : Openness) (rule : SideRule K) {query : Point K}
    (onGlobe : query.isOnGlobe = true) (known : view.position? node = some position) :
    ∃ d, resolve view allows rule node query = .ok d ∧
      Decided allows (rule.sideOf position query) (view.incidences node) d := by
  obtain ⟨d, answer, resolves⟩ := exists_resolves allows rule onGlobe known
  exact ⟨d, answer, resolves.decided⟩

end Neighborhood

/-- A bend in a road. -/
def bend : RoadView Rat where
  position? node := if node = ⟨1⟩ then some ⟨0, 0⟩ else none
  incidences _ := [⟨⟨0⟩, ⟨0⟩, .backward, ⟨0, -1⟩⟩, ⟨⟨1⟩, ⟨2⟩, .forward, ⟨1, 0⟩⟩]

/-- The second edge at the bend is shut, so that the first one is a dead end. -/
theorem resolve_decided_shutBend :
    let allows : Openness := fun edge _ => edge = ⟨0⟩
    (⟨1, 0⟩ : Point Rat).isOnGlobe = true ∧ bend.position? ⟨1⟩ = some ⟨0, 0⟩ ∧
      ∃ d, resolve bend allows .standard ⟨1⟩ ⟨1, 0⟩ = .ok d ∧
        Decided allows (SideRule.standard.sideOf ⟨0, 0⟩ ⟨1, 0⟩) (bend.incidences ⟨1⟩) d := by
  intro allows
  have onGlobe : (⟨1, 0⟩ : Point Rat).isOnGlobe = true := by decide +kernel
  exact ⟨onGlobe, rfl, resolve_decided allows .standard onGlobe rfl⟩

end Roadside
