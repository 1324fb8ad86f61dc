import Roadside.Plane

/-!
# Elements of an extract

An OpenStreetMap extract is a list of elements: nodes with their positions, ways that run through nodes, and relations
between elements. Nodes and ways carry whole numbers as names, and a way names nodes that the extract may not hold.
Positions are in degrees, as the decoder of a file gives them.
-/

namespace Roadside.OpenStreetMap

/-- Keys with their values; a key may occur more than once, and its first value counts. -/
abbrev Tags := List (String × String)

/-- A line through nodes. -/
structure Way where
  id : Int
  /-- The names of the nodes in order. -/
  refs : List Int
  tags : Tags
  deriving DecidableEq

/-- An element of an extract. -/
inductive Element where
  | node (id : Int) (position : Point Float)
  | way (way : Way)
  | relation (id : Int)
  deriving DecidableEq

end Roadside.OpenStreetMap
