import Roadside.Ident
import Roadside.Plane

/-!
# What can go wrong

A `Fault` is a request that cannot be answered, a `MapFault` a road map that cannot be had. Neither is an answer about
traffic: a node that no traffic passes is an ordinary result.
-/

namespace Roadside

/-- Why a request has no answer. -/
inductive Fault (K : Type) where
  | unknownNode (node : NodeId)
  | offGlobe (point : Point K)
  | unsoundTolerance (tolerance : K)
  /-- The text, without blanks at its ends, names no preference. -/
  | unknownPreference (text : String)
  deriving DecidableEq

/-- Why there is no road map. -/
inductive MapFault where
  /-- An edge was to end at a node that had not been added. -/
  | unknownNode (node : NodeId)
  /-- The file could not be read; `code` is the number that the operating system gives for `reason`. -/
  | unreadable (reason : String) (code : Nat)
  /-- The file could be read and is no extract. -/
  | malformed (reason : String)
  deriving DecidableEq

/-- The point itself if it is on the globe. -/
def Point.checked {K : Type} [Scalar K] (p : Point K) : Except (Fault K) (Point K) :=
  if p.isOnGlobe then .ok p else .error (.offGlobe p)

end Roadside
