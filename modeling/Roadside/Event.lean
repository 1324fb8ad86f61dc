import Roadside.Directions
import Roadside.Neighborhood

/-!
# Events

What is worth a line in a log while directions are resolved and while a map is made.
-/

namespace Roadside

inductive Level where
  | trace
  | debug
  | warn
  deriving DecidableEq

/-- A step of resolving directions. -/
inductive Event (K : Type) where
  | armSeen (node : NodeId) (arm : Arm K)
  /-- The query was placed on a side of the traffic that arrives against a heading. -/
  | sideSeen (heading : Heading K) (edge : EdgeId) (query : Point K) (side : Side)
  | resolved (node : NodeId) (query : Point K) (directions : Directions)
  deriving DecidableEq

def Event.level {K : Type} : Event K → Level
  | .armSeen .. | .sideSeen .. => .trace
  | .resolved .. => .debug

/-- A step of making a map from an extract. -/
inductive Notice where
  /-- A road names nodes that the extract does not hold. -/
  | missingNodes (way : Int) (count : Nat)
  /-- So many roads became so many nodes and edges. -/
  | loaded (roads nodes edges : Nat)
  deriving DecidableEq

def Notice.level : Notice → Level
  | .missingNodes .. => .warn
  | .loaded .. => .debug

end Roadside
