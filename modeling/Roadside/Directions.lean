import Roadside.Ident
import Roadside.Preference

/-!
# Directions

The answer for one location beside a node: which edge a route has to arrive on and which one it has to leave on, for
each side of the road.

* `Directions.pairing?` is the view by side; a pairing placed on a side is found there (`pairing?_only`,
  `pairing?_paired`), and the other one on the opposite side (`pairing?_paired_opposite`).
* `Directions.arrival` and `Directions.departure` answer a preference with a `Demand` on the edge. The demand names the
  edge of the pairing on the wanted side (`demand_eq_exactly_iff`); if there is none, no edge will do
  (`demand_eq_forbidden_iff`), unless no side is wanted or no edge is ruled out (`demand_eq_any_iff`).
-/

namespace Roadside

/-- The edge to arrive on and the edge to leave on. -/
structure Pairing where
  arrive : EdgeId
  depart : EdgeId
  deriving DecidableEq

/-- The edges by which a location beside a node can be reached and left. -/
inductive Directions where
  /-- No traffic passes here. -/
  | impossible
  /-- Nothing is known that rules an edge out. -/
  | unrestricted
  | both (right left : Pairing)
  | only (side : Side) (pairing : Pairing)
  deriving DecidableEq

/-- What is asked of the edge at one side of the road. -/
inductive Demand where
  /-- Every edge will do. -/
  | any
  /-- No edge will do. -/
  | forbidden
  /-- This edge and no other. -/
  | exactly (edge : EdgeId)
  deriving DecidableEq

namespace Demand

/-- The edge that is asked for by name. -/
def edge? : Demand → Option EdgeId
  | .exactly e => some e
  | _ => none

def text : Demand → String
  | .any => "any"
  | .forbidden => "forbidden"
  | .exactly e => e.text

end Demand

namespace Pairing

/-- One edge for both purposes. -/
def uTurn (e : EdgeId) : Pairing := ⟨e, e⟩

/-- The same edges with their purposes exchanged. -/
def reverse (p : Pairing) : Pairing := ⟨p.depart, p.arrive⟩

def text (p : Pairing) : String :=
  "(in: " ++ toString p.arrive.index ++ ", out: " ++ toString p.depart.index ++ ")"

end Pairing

namespace Directions

/-- One pairing on a side and another one on the opposite side. -/
def paired (side : Side) (here there : Pairing) : Directions :=
  match side with
  | .right => .both here there
  | .left => .both there here

def pairing? : Directions → Side → Option Pairing
  | .both right _, .right => some right
  | .both _ left, .left => some left
  | .only side pairing, s => if side = s then some pairing else none
  | _, _ => none

/-- Some edge is ruled out on some side. -/
def isRestricted : Directions → Bool
  | .impossible | .unrestricted => false
  | .both _ _ | .only _ _ => true

/-- The edges of all pairings, right before left and arrival before departure. -/
def edges : Directions → List EdgeId
  | .impossible | .unrestricted => []
  | .both right left => [right.arrive, right.depart, left.arrive, left.depart]
  | .only _ pairing => [pairing.arrive, pairing.depart]

/-- What a preference asks of the edge that `pick` takes out of a pairing. -/
def demand (d : Directions) (pick : Pairing → EdgeId) : Preference → Demand
  | .any => .any
  | .on side =>
    match d with
    | .unrestricted => .any
    | _ => (d.pairing? side).elim .forbidden fun p => .exactly (pick p)

def arrival (d : Directions) (p : Preference) : Demand := d.demand Pairing.arrive p

def departure (d : Directions) (p : Preference) : Demand := d.demand Pairing.depart p

def text : Directions → String
  | .impossible => "impossible"
  | .unrestricted => "unrestricted"
  | .both right left => "restricted: right = " ++ right.text ++ ", left = " ++ left.text
  | .only side pairing => "only " ++ side.text ++ ": " ++ pairing.text

section Demands

variable {d : Directions} {pick : Pairing → EdgeId} {preference : Preference}

theorem demand_on_of_pairing? {s : Side} {p : Pairing} (h : d.pairing? s = some p) :
    d.demand pick (.on s) = .exactly (pick p) := by
  cases d with
  | impossible | unrestricted => cases h
  | both | only => simp only [demand, h, Option.elim_some]

theorem demand_on_of_pairing?_eq_none {s : Side} (h : d.pairing? s = none) :
    d.demand pick (.on s) = if d = .unrestricted then .any else .forbidden := by
  cases d with
  | impossible | unrestricted => rfl
  | both | only => simp [demand, h]

theorem demand_eq_any_iff : d.demand pick preference = .any ↔ preference = .any ∨ d = .unrestricted := by
  cases preference with
  | any => simp [demand]
  | on s =>
    cases h : d.pairing? s with
    | none => simp [demand_on_of_pairing?_eq_none h]
    | some p =>
      have restricted : d ≠ .unrestricted := by
        rintro rfl
        cases h
      simp [demand_on_of_pairing? h, restricted]

theorem demand_eq_forbidden_iff :
    d.demand pick preference = .forbidden ↔ d ≠ .unrestricted ∧ ∃ s, preference = .on s ∧ d.pairing? s = none := by
  cases preference with
  | any => simp [demand]
  | on s =>
    cases h : d.pairing? s with
    | none => simp [demand_on_of_pairing?_eq_none h, h]
    | some p => simp [demand_on_of_pairing? h, h]

theorem demand_eq_exactly_iff {e : EdgeId} :
    d.demand pick preference = .exactly e ↔ ∃ s p, preference = .on s ∧ d.pairing? s = some p ∧ pick p = e := by
  cases preference with
  | any => simp [demand]
  | on s =>
    cases h : d.pairing? s with
    | none =>
      simp only [demand_on_of_pairing?_eq_none h, Preference.on.injEq, exists_and_left]
      split <;> simp [h]
    | some p => simp [demand_on_of_pairing? h, h]

end Demands

@[simp] theorem pairing?_only (s : Side) (p : Pairing) : (only s p).pairing? s = some p := by simp [pairing?]

@[simp] theorem pairing?_only_opposite (s : Side) (p : Pairing) : (only s p).pairing? s.opposite = none := by
  cases s <;> rfl

@[simp] theorem pairing?_paired (s : Side) (p q : Pairing) : (paired s p q).pairing? s = some p := by
  cases s <;> rfl

@[simp] theorem pairing?_paired_opposite (s : Side) (p q : Pairing) :
    (paired s p q).pairing? s.opposite = some q := by
  cases s <;> rfl

end Directions

end Roadside
