import Mathlib.Logic.Equiv.Defs
import Roadside.Proofs.Arms
import Roadside.Proofs.ListingOrder

/-!
# New numbers for nodes and edges

The numbers of nodes and edges tell them apart and nothing else. Where the arms of a node get new numbers, and are
listed in another order, the node has the same layout under the new numbers, unless the two halves of a two-way road
change places (`layout_renumber_perm`); and then the directions there are the same under the new numbers
(`directions_renumber`).

On the side of drafts, a segment with new numbers has the arms it had, with new numbers (`arms_renumber`).
-/

namespace Roadside

variable {K : Type}

/-- New numbers for the nodes and for the edges, each number given to one of them. -/
structure Renumbering where
  nodes : Equiv.Perm NodeId
  edges : Equiv.Perm EdgeId

section Renumber

variable (r : Renumbering)

def Ends.renumber (e : Ends) : Ends := ⟨r.nodes e.start, r.nodes e.finish⟩

def Segment.renumber (s : Segment K) : Segment K := { s with ends := s.ends.renumber r }

def Arm.renumber (a : Arm K) : Arm K := { a with edge := r.edges a.edge, far := r.nodes a.far }

def Layout.renumber : Layout K → Layout K
  | .closed => .closed
  | .free => .free
  | .deadEnd arm => .deadEnd (arm.renumber r)
  | .oneWay arrive depart => .oneWay (arrive.renumber r) (depart.renumber r)
  | .twoWay first second => .twoWay (first.renumber r) (second.renumber r)

def Pairing.renumber (p : Pairing) : Pairing := ⟨r.edges p.arrive, r.edges p.depart⟩

def Directions.renumber : Directions → Directions
  | .impossible => .impossible
  | .unrestricted => .unrestricted
  | .both right left => .both (right.renumber r) (left.renumber r)
  | .only side pairing => .only side (pairing.renumber r)

end Renumber

variable {r : Renumbering}

@[simp] theorem Ends.target_renumber (e : Ends) (t : Travel) : (e.renumber r).target t = r.nodes (e.target t) := by
  cases t <;> rfl

@[simp] theorem Ends.source_renumber (e : Ends) (t : Travel) : (e.renumber r).source t = r.nodes (e.source t) :=
  e.target_renumber t.reverse

/-! ## Layouts -/

theorem Layout.ofPair_renumber (a b : Arm K) :
    ofPair (a.renumber r) (b.renumber r) = (ofPair a b).renumber r := by
  have isOpen (a : Arm K) : (a.renumber r).isOpen = a.isOpen := rfl
  have usage (a : Arm K) : (a.renumber r).usage = a.usage := rfl
  simp only [ofPair, isOpen, usage]
  split
  · rfl
  · split
    · rfl
    · split
      · rfl
      · split <;> rfl

namespace Neighborhood

variable {n n' : Neighborhood K}

theorem layout_renumber (arms : n'.arms = n.arms.map (Arm.renumber r)) : n'.layout = n.layout.renumber r := by
  have arrivals : n'.arrivals = n.arrivals := by
    rw [Neighborhood.arrivals, arms, List.countP_map]
    rfl
  have departures : n'.departures = n.departures := by
    rw [Neighborhood.departures, arms, List.countP_map]
    rfl
  rw [layout, layout, arrivals, departures, arms]
  split
  · rfl
  · rcases n.arms with _ | ⟨a, _ | ⟨b, _ | ⟨_, _⟩⟩⟩
    case nil => rfl
    case cons.nil => rfl
    case cons.cons.nil =>
      have far : (a.renumber r).far = (b.renumber r).far ↔ a.far = b.far := r.nodes.apply_eq_iff_eq
      simp only [List.map_cons, List.map_nil, far, Layout.ofPair_renumber]
      split <;> rfl
    case cons.cons.cons => rfl

/-- Listed in another order and under new numbers, the arms have the same layout, unless the two halves of a two-way
road change places. -/
theorem layout_renumber_perm (perm : n'.arms.Perm (n.arms.map (Arm.renumber r)))
    (fixed : ∀ a b, n.arms = [a, b] → a.usage = .both → b.usage = .both →
      n'.arms = [a.renumber r, b.renumber r]) : n'.layout = n.layout.renumber r := by
  have renumbered : (⟨n.node, n.position, n.arms.map (Arm.renumber r)⟩ : Neighborhood K).layout = n.layout.renumber r :=
    layout_renumber rfl
  rw [← renumbered]
  rcases layout_perm (n := ⟨n.node, n.position, n.arms.map (Arm.renumber r)⟩) perm with
    same | ⟨_, _, arms, arms', apart, first, second⟩
  · exact same
  · obtain ⟨a, _, listed, rfl, rest⟩ := List.map_eq_cons_iff.1 arms
    obtain ⟨b, _, rfl, rfl, none⟩ := List.map_eq_cons_iff.1 rest
    obtain rfl := List.map_eq_nil_iff.1 none
    -- listed as they were, the halves have not changed places
    rw [fixed a b listed first second] at arms'
    exact absurd (congrArg Arm.far (List.cons.inj arms').1) apart

end Neighborhood

/-! ## Directions -/

theorem Directions.renumber_paired (s : Side) (p q : Pairing) :
    (paired s p q).renumber r = paired s (p.renumber r) (q.renumber r) := by
  cases s <;> rfl

/-- A layout under new numbers gives the directions under new numbers, if the sides are the same. -/
theorem Layout.directions_renumber {side side' : Arm K → Side} (sides : ∀ a, side' (a.renumber r) = side a)
    (l : Layout K) : (l.renumber r).directions side' = (l.directions side).renumber r := by
  cases l with
  | closed | free | deadEnd => rfl
  | oneWay a b => simp only [renumber, directions, sides]; rfl
  | twoWay a b => simp only [renumber, directions, sides, Directions.renumber_paired]; rfl

/-- Directions depend on the numbers of the edges as their layout does. -/
theorem Neighborhood.directions_renumber [Scalar K] {n n' : Neighborhood K} (position : n'.position = n.position)
    (layout : n'.layout = n.layout.renumber r) (rule : SideRule K) (query : Point K) :
    n'.directions rule query = (n.directions rule query).renumber r := by
  rw [directions, layout]
  refine Layout.directions_renumber (fun a => ?_) n.layout
  rw [sideFrom, position]
  rfl

/-! ## Drafts -/

namespace Draft

variable {d d' : Draft K}

theorem outwards_renumber (s : Segment K) (node : NodeId) :
    (s.renumber r).outwards (r.nodes node) = s.outwards node := by
  simp only [Segment.outwards, Segment.renumber, Ends.renumber, r.nodes.apply_eq_iff_eq]

/-- In a draft with the same nodes under new numbers, a segment has the arms it had, under new numbers. -/
theorem arms_renumber (positions : ∀ node, d'.position? (r.nodes node) = d.position? node) {s : Segment K} {i j : Nat}
    (number : r.edges (.ofIndex i) = .ofIndex j) (node : NodeId) :
    d'.arms (s.renumber r) j (r.nodes node) = (d.arms s i node).map (Arm.renumber r) := by
  have arm (t : Travel) : d'.arm? (s.renumber r) j t = (d.arm? s i t).map (Arm.renumber r) := by
    have target : (s.renumber r).ends.target t = r.nodes (s.ends.target t) := s.ends.target_renumber t
    have anchor : d'.anchor? (s.renumber r) t = d.anchor? s t := by
      rw [anchor?, target, positions]
      cases t <;> rfl
    rw [arm?, anchor, arm?, Option.map_map, target, ← number]
    rfl
  rw [arms, outwards_renumber, arms, List.map_filterMap]
  exact List.filterMap_congr fun t _ => arm t

end Draft

end Roadside
