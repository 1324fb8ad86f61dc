/-!
# Directions of travel

An edge is stored once, from its start to its finish. Whether it may be driven is asked for each direction of travel,
and seen from one of its ends the two directions become arriving and leaving.
-/

namespace Roadside

/-- A direction along an edge, relative to the way it is stored. -/
inductive Travel where
  /-- From the start to the finish. -/
  | forward
  /-- From the finish to the start. -/
  | backward
  deriving DecidableEq

namespace Travel

def reverse : Travel → Travel
  | .forward => .backward
  | .backward => .forward

@[simp] theorem reverse_reverse (t : Travel) : t.reverse.reverse = t := by cases t <;> rfl

end Travel

/-- The directions in which an edge is open. -/
structure Access where
  forward : Bool
  backward : Bool
  deriving DecidableEq

namespace Access

def both : Access := ⟨true, true⟩

def forwardOnly : Access := ⟨true, false⟩

def backwardOnly : Access := ⟨false, true⟩

def closed : Access := ⟨false, false⟩

def allows (a : Access) : Travel → Bool
  | .forward => a.forward
  | .backward => a.backward

@[ext] theorem ext_allows {a b : Access} (h : ∀ t, a.allows t = b.allows t) : a = b := by
  cases a; cases b
  simpa [allows] using And.intro (h .forward) (h .backward)

end Access

/-- What an edge is good for at one of its ends. -/
structure Usage where
  /-- It may be driven toward the node. -/
  arrive : Bool
  /-- It may be driven away from the node. -/
  leave : Bool
  deriving DecidableEq

namespace Usage

def both : Usage := ⟨true, true⟩

/-- The edge may be driven in some direction. -/
def isOpen (u : Usage) : Bool := u.arrive || u.leave

def text : Usage → String
  | ⟨true, true⟩ => "Both"
  | ⟨true, false⟩ => "InOnly"
  | ⟨false, true⟩ => "OutOnly"
  | ⟨false, false⟩ => "None"

end Usage

end Roadside
