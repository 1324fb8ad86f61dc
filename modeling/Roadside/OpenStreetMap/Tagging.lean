import Roadside.OpenStreetMap.Element
import Roadside.Traffic

/-!
# What tags say about driving

The `highway` tag makes a way a road for cars or not, and `access`, `oneway` and the class of the road say in which
directions it is open, relative to the order of its nodes.
-/

namespace Roadside.OpenStreetMap

/-- The classes of ways that are not for cars. -/
def undrivable : List String :=
  ["footway", "path", "cycleway", "pedestrian", "steps", "track", "bridleway", "corridor", "proposed", "construction"]

/-- The classes of roads that are one-way unless a tag says otherwise. -/
def oneWayByNature : List String := ["motorway", "motorway_link"]

namespace Tags

def value? (tags : Tags) (key : String) : Option String := tags.lookup key

/-- The class of the road that a way is, if cars may use roads of that class. -/
def highway? (tags : Tags) : Option String := (value? tags "highway").filter fun highway => !undrivable.contains highway

/-- The directions that a value of `oneway` stands for. -/
def oneWayAccess? : String → Option Access
  | "yes" | "1" | "true" => some .forwardOnly
  | "-1" | "reverse" => some .backwardOnly
  | "no" | "0" | "false" => some .both
  | _ => none

/-- The directions in which a road of some class with these tags is open. -/
def access (tags : Tags) (highway : String) : Access :=
  if (value? tags "access").any fun value => value = "no" || value = "private" then .closed
  else ((value? tags "oneway").bind oneWayAccess?).getD
    (if oneWayByNature.contains highway then .forwardOnly else .both)

end Tags

/-- A way for cars. -/
structure Road where
  way : Int
  refs : List Int
  access : Access
  deriving DecidableEq

def Element.road? : Element → Option Road
  | .way w => (Tags.highway? w.tags).map fun highway => ⟨w.id, w.refs, Tags.access w.tags highway⟩
  | .node .. | .relation _ => none

end Roadside.OpenStreetMap
