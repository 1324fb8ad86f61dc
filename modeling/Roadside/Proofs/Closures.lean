import Roadside.Proofs.Decision

/-!
# Closing roads

What happens to the directions at a node when some of the directions in which edges were open are shut. The shapes of
directions follow one another in one direction only, from no restriction over restrictions to no traffic at all, but
single pairings need not survive: where an edge is shut altogether, the other one becomes a dead end and is paired with
itself.

* **A pairing is a passage between neighbours, or the dead end** (`Pairs.exists_pairing?_iff`), so under a narrower
  openness that leaves the same edges usable there are no new pairings.
* **Closing roads is monotone** (`resolve_narrowed`).
-/

namespace Roadside

variable {K : Type}

/-! ## Narrower openness -/

/-- Whatever is open under the first openness is open under the second one. -/
def Openness.Within (allows' allows : Openness) : Prop :=
  ∀ edge travel, allows' edge travel = true → allows edge travel = true

/-- Shutting directions of edges opens nothing. -/
theorem Openness.within_shut (allows : Openness) (closed : List (EdgeId × Travel)) :
    (allows.shut closed).Within allows := by
  intro edge travel h
  simp only [shut, Bool.and_eq_true] at h
  exact h.2

section Narrower

variable {allows allows' : Openness} (within : allows'.Within allows) {listed : List (Incidence K)}
include within

theorem Incidence.arrives_of_within {i : Incidence K} (h : i.arrives allows' = true) : i.arrives allows = true :=
  within _ _ h

theorem Incidence.leaves_of_within {i : Incidence K} (h : i.leaves allows' = true) : i.leaves allows = true :=
  within _ _ h

theorem Incidence.isUsable_of_within {i : Incidence K} (h : i.isUsable allows' = true) : i.isUsable allows = true := by
  simp only [isUsable, Bool.or_eq_true] at h ⊢
  exact h.imp (arrives_of_within within) (leaves_of_within within)

theorem Flows.of_within (h : Flows allows' listed) : Flows allows listed := by
  obtain ⟨⟨i, hi, arrive⟩, j, hj, leave⟩ := h
  exact ⟨⟨i, hi, i.arrives_of_within within arrive⟩, j, hj, j.leaves_of_within within leave⟩

/-- If all edges that were usable still are, the usable edges are the same. -/
theorem filter_isUsable_of_within (kept : ∀ i ∈ listed, i.isUsable allows = true → i.isUsable allows' = true) :
    listed.filter (·.isUsable allows') = listed.filter (·.isUsable allows) := by
  refine List.filter_congr fun i hi => ?_
  rw [Bool.eq_iff_iff]
  exact ⟨i.isUsable_of_within within, kept i hi⟩

end Narrower

/-! ## Pairings by themselves -/

section Pairings

variable {allows : Openness} {side : Incidence K → Side} {listed : List (Incidence K)} {d : Directions}

/-- Traffic can arrive on `x` and leave on `y`, which leads elsewhere, unless it is the dead end that turns traffic
back. -/
structure LeadsThrough (allows : Openness) (listed : List (Incidence K)) (x y : Incidence K) : Prop where
  arriving : x ∈ listed
  leaving : y ∈ listed
  arrive : x.arrives allows = true
  leave : y.leaves allows = true
  apart : x = y ∧ listed.filter (·.isUsable allows) = [x] ∨ x.far ≠ y.far

/-- At a dead end, traffic is led back and nowhere else. -/
theorem LeadsThrough.eq_of_alone {x y u : Incidence K} (h : LeadsThrough allows listed x y)
    (alone : listed.filter (·.isUsable allows) = [u]) : x = u ∧ y = u := by
  have only : ∀ i ∈ listed, i.isUsable allows = true → i = u := by
    intro i hi usable
    have mem : i ∈ listed.filter (·.isUsable allows) := List.mem_filter.2 ⟨hi, usable⟩
    rw [alone] at mem
    exact List.mem_singleton.1 mem
  exact ⟨only x h.arriving (isUsable_of_arrives h.arrive), only y h.leaving (isUsable_of_leaves h.leave)⟩

/-- Of two usable edges one leads to the other. -/
theorem LeadsThrough.eq_of_pair {a b x y : Incidence K} (h : LeadsThrough allows [a, b] x y)
    (first : a.isUsable allows = true) (second : b.isUsable allows = true) :
    x = a ∧ y = b ∨ x = b ∧ y = a := by
  have different : x ≠ y := by
    rcases h.apart with ⟨-, alone⟩ | apart
    · simp [first, second] at alone
    · exact fun same => apart (same ▸ rfl)
  have arriving := h.arriving
  have leaving := h.leaving
  simp only [List.mem_cons, List.not_mem_nil, or_false] at arriving leaving
  grind

namespace Pairs

/-- Every way through a node that is not crowded is paired on some side. -/
theorem exists_pairing? (h : Pairs allows side listed d) {x y : Incidence K} (leads : LeadsThrough allows listed x y) :
    ∃ s, d.pairing? s = some ⟨x.edge, y.edge⟩ := by
  cases h with
  | deadEnd u alone =>
    obtain ⟨rfl, rfl⟩ := leads.eq_of_alone alone
    exact ⟨.right, rfl⟩
  | twoWay a b pair first second =>
    subst pair
    rcases leads.eq_of_pair (isUsable_of_arrives first.1) (isUsable_of_arrives second.1) with ⟨rfl, rfl⟩ | ⟨rfl, rfl⟩
    · exact ⟨_, Directions.pairing?_paired ..⟩
    · exact ⟨_, Directions.pairing?_paired_opposite ..⟩
  | oneWay a b pair arrive leave single =>
    have here : x = a ∧ y = b ∨ x = b ∧ y = a := by
      rcases pair with rfl | rfl
      · exact leads.eq_of_pair (isUsable_of_arrives arrive) (isUsable_of_leaves leave)
      · exact (leads.eq_of_pair (isUsable_of_leaves leave) (isUsable_of_arrives arrive)).symm
    rcases here with ⟨rfl, rfl⟩ | ⟨rfl, rfl⟩
    · exact ⟨_, Directions.pairing?_only ..⟩
    · exact absurd ⟨leads.arrive, leads.leave⟩ single

/-- The pairings are the ways through the node. -/
theorem exists_pairing?_iff (h : Pairs allows side listed d) (sparse : ¬Crowded listed) {p : Pairing} :
    (∃ s, d.pairing? s = some p) ↔ ∃ x y, LeadsThrough allows listed x y ∧ p = ⟨x.edge, y.edge⟩ := by
  constructor
  · rintro ⟨s, hp⟩
    obtain ⟨x, hx, y, hy, arrive, leave, rfl, apart⟩ := h.exists_of_pairing? sparse hp
    exact ⟨x, y, ⟨hx, hy, arrive, leave, apart⟩, rfl⟩
  · rintro ⟨x, y, leads, rfl⟩
    exact h.exists_pairing? leads

end Pairs

end Pairings

/-! ## Directions -/

/-- What closing roads may make of the directions `d` at a node: `d'` under the narrower openness. -/
structure Narrowed (allows allows' : Openness) (listed : List (Incidence K)) (d d' : Directions) : Prop where
  impossible : d = .impossible → d' = .impossible
  unrestricted : d' = .unrestricted → d = .unrestricted
  restricted : d'.isRestricted = true → d.isRestricted = true
  /-- Unless an edge is shut altogether, no pairing is new. -/
  pairings : d'.isRestricted = true → (∀ i ∈ listed, i.isUsable allows = true → i.isUsable allows' = true) →
    ∀ s p, d'.pairing? s = some p → ∃ s, d.pairing? s = some p

section Cases

variable {allows allows' : Openness} {side side' : Incidence K → Side} {listed : List (Incidence K)}
  {d d' : Directions}

/-- Directions that restrict come from the pairings of edges that are not crowded. -/
theorem Resolves.pairs_of_isRestricted (h : Resolves allows side listed d) (restricted : d.isRestricted = true) :
    ¬Crowded listed ∧ Pairs allows side listed d := by
  cases h with
  | impossible => cases restricted
  | unrestricted => cases restricted
  | restricted sparse pairs => exact ⟨sparse, pairs⟩

theorem LeadsThrough.of_within (within : allows'.Within allows)
    (kept : ∀ i ∈ listed, i.isUsable allows = true → i.isUsable allows' = true) {x y : Incidence K}
    (h : LeadsThrough allows' listed x y) : LeadsThrough allows listed x y := by
  obtain ⟨hx, hy, arrive, leave, apart⟩ := h
  refine ⟨hx, hy, x.arrives_of_within within arrive, y.leaves_of_within within leave, ?_⟩
  rwa [filter_isUsable_of_within within kept] at apart

theorem Resolves.narrowed (h : Resolves allows side listed d) (h' : Resolves allows' side' listed d')
    (within : allows'.Within allows) : Narrowed allows allows' listed d d' := by
  constructor
  case impossible =>
    intro impossible
    have shut := h.impossible_iff.1 impossible
    exact h'.impossible_iff.2 fun flows => shut (flows.of_within within)
  case unrestricted =>
    intro unrestricted
    obtain ⟨flows, crowded⟩ := h'.unrestricted_iff.1 unrestricted
    exact h.unrestricted_iff.2 ⟨flows.of_within within, crowded⟩
  case restricted =>
    intro restricted
    obtain ⟨sparse, pairs⟩ := h'.pairs_of_isRestricted restricted
    exact (h.pairs (pairs.flows.of_within within) sparse).isRestricted
  case pairings =>
    intro restricted kept s p hp
    obtain ⟨sparse, pairs'⟩ := h'.pairs_of_isRestricted restricted
    have pairs : Pairs allows side listed d := h.pairs (pairs'.flows.of_within within) sparse
    obtain ⟨x, y, leads, rfl⟩ := (pairs'.exists_pairing?_iff sparse).1 ⟨s, hp⟩
    exact pairs.exists_pairing? (leads.of_within within kept)

end Cases

/-- **Closing roads is monotone**: if the second openness allows only what the first one does, a known node has
directions under both for every query on the globe, and those under the second one are narrowed. -/
theorem resolve_narrowed [Scalar K] {view : RoadView K} {node : NodeId} {position : Point K}
    (known : view.position? node = some position) {allows allows' : Openness} (within : allows'.Within allows)
    (rule : SideRule K) {query : Point K} (onGlobe : query.isOnGlobe = true) :
    ∃ d d', resolve view allows rule node query = .ok d ∧ resolve view allows' rule node query = .ok d' ∧
      Narrowed allows allows' (view.incidences node) d d' := by
  obtain ⟨d, answer, resolves⟩ := exists_resolves allows rule onGlobe known
  obtain ⟨d', answer', resolves'⟩ := exists_resolves allows' rule onGlobe known
  exact ⟨d, d', answer, answer', resolves.narrowed resolves' within⟩

/-- At the bend, the second edge is made one-way toward it. -/
theorem resolve_narrowed_bend :
    let allows : Openness := fun _ _ => true
    let allows' : Openness := Openness.shut allows [(⟨1⟩, .forward)]
    bend.position? ⟨1⟩ = some ⟨0, 0⟩ ∧ allows'.Within allows ∧ (⟨1, 0⟩ : Point Rat).isOnGlobe = true ∧
      ∃ d d', resolve bend allows .standard ⟨1⟩ ⟨1, 0⟩ = .ok d ∧ resolve bend allows' .standard ⟨1⟩ ⟨1, 0⟩ = .ok d' ∧
        Narrowed allows allows' (bend.incidences ⟨1⟩) d d' := by
  intro allows allows'
  have known : bend.position? ⟨1⟩ = some ⟨0, 0⟩ := by decide
  have within : allows'.Within allows := Openness.within_shut _ _
  have onGlobe : (⟨1, 0⟩ : Point Rat).isOnGlobe = true := by decide +kernel
  exact ⟨known, within, onGlobe, resolve_narrowed known within .standard onGlobe⟩

/-- Shut both ways, the second edge leaves a dead end behind, whose pairing is new. -/
example : (bend.neighborhood (Openness.shut (fun _ _ => true) [(⟨1⟩, .forward), (⟨1⟩, .backward)]) ⟨1⟩ ⟨0, 0⟩).directions
    .standard ⟨1, 0⟩ = .both (.uTurn ⟨0⟩) (.uTurn ⟨0⟩) := by decide +kernel

end Roadside
