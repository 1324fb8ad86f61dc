import Roadside.Event
import Roadside.Fault

/-!
# Road maps that can be asked

Directions at a node are found by asking a `Host`: where the node lies, which edges touch it, and whether an edge is
open in a direction. The host answers in a monad of its own, so the same questions go to a map in memory and to one
that writes down what it was asked.

* `RoadView.host` answers at once and keeps no notes.
* `Journal.host` gives the same answers and keeps a `Journal` of the inquiries and the events.
-/

namespace Roadside

variable {K : Type}

/-- What the resolution of directions asks of a road map. -/
structure Host (m : Type → Type) (K : Type) where
  position? : NodeId → m (Option (Point K))
  /-- The edges at an existing node. -/
  incidences : NodeId → m (List (Incidence K))
  allows : EdgeId → Travel → m Bool
  note : Event K → m Unit

/-! ## Maps that answer at once -/

/-- The nodes of a road map and the edges at each. -/
structure RoadView (K : Type) where
  position? : NodeId → Option (Point K)
  incidences : NodeId → List (Incidence K)

/-- Which edges may be driven in which direction. -/
abbrev Openness := EdgeId → Travel → Bool

/-- The same with some directions of edges shut. -/
def Openness.shut (allows : Openness) (closed : List (EdgeId × Travel)) : Openness := fun edge travel =>
  !closed.contains (edge, travel) && allows edge travel

/-- A map that answers at once and keeps no notes. -/
def RoadView.host (view : RoadView K) (allows : Openness) : Host Id K where
  position? node := view.position? node
  incidences node := view.incidences node
  allows edge travel := allows edge travel
  note _ := ()

/-! ## Maps that keep a journal -/

inductive Inquiry where
  | position (node : NodeId)
  | incidences (node : NodeId)
  | allows (edge : EdgeId) (travel : Travel)
  deriving DecidableEq

/-- The questions that were put and the events that were noted, each in order. -/
structure Journal (K : Type) where
  inquiries : List Inquiry := []
  events : List (Event K) := []

def Journal.asked {α : Type} (inquiry : Inquiry) (answer : α) : StateM (Journal K) α :=
  modifyGet fun journal => (answer, { journal with inquiries := journal.inquiries ++ [inquiry] })

/-- A map that answers at once and enters every question and every event in a journal. -/
def Journal.host (view : RoadView K) (allows : Openness) : Host (StateM (Journal K)) K where
  position? node := asked (.position node) (view.position? node)
  incidences node := asked (.incidences node) (view.incidences node)
  allows edge travel := asked (.allows edge travel) (allows edge travel)
  note event := modify fun journal => { journal with events := journal.events ++ [event] }

end Roadside
