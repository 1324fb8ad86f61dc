import Roadside.Host
import Roadside.Layout

/-!
# Resolving directions

* `Host.survey` asks for the neighbourhood of a node, `Host.resolve` goes on to the directions.
* `survey` and `resolve` are the plain functions, on a map that answers at once.
* **The answer without the asking** (`survey_eq`, `resolve_eq`): the query is checked first, then the node is looked
  up, and from there on the neighbourhood alone decides.
-/

namespace Roadside

variable {K : Type}

namespace Host

variable {m : Type → Type} [Monad m]

/-- Finds out what an edge may be used for at `node`: first to arrive, then to leave. -/
def inspect (host : Host m K) (node : NodeId) (i : Incidence K) : m (Arm K) := do
  let arrive ← host.allows i.edge i.inward
  let leave ← host.allows i.edge i.outward
  let arm : Arm K := ⟨i.edge, i.far, ⟨arrive, leave⟩, i.anchor⟩
  host.note (.armSeen node arm)
  return arm

/-- The neighbourhood of a node. -/
def survey (host : Host m K) (node : NodeId) : m (Except (Fault K) (Neighborhood K)) := do
  match ← host.position? node with
  | none => return .error (.unknownNode node)
  | some position =>
    let listed ← host.incidences node
    let arms ← listed.mapM (host.inspect node)
    return .ok ⟨node, position, arms⟩

end Host

/-- What is noted when the directions at a node have been found. -/
def Neighborhood.events [Scalar K] (n : Neighborhood K) (rule : SideRule K) (query : Point K) : List (Event K) :=
  let sides := n.layout.reference?.toList.map fun arm =>
    .sideSeen (n.position.headingTo arm.anchor) arm.edge query (n.sideFrom rule query arm)
  sides ++ [.resolved n.node query (n.directions rule query)]

namespace Host

variable {m : Type → Type} [Monad m] [Scalar K]

/-- The directions at a node for a query beside it. A query off the globe is refused before anything is asked. -/
def resolve (host : Host m K) (rule : SideRule K) (node : NodeId) (query : Point K) :
    m (Except (Fault K) Directions) := do
  match query.checked with
  | .error fault => return .error fault
  | .ok query =>
    match ← host.survey node with
    | .error fault => return .error fault
    | .ok n =>
      (n.events rule query).forM host.note
      return .ok (n.directions rule query)

/-- The directions for many queries, one after the other. -/
def resolveAll (host : Host m K) (rule : SideRule K) (queries : List (NodeId × Point K)) :
    m (List (Except (Fault K) Directions)) :=
  queries.mapM fun (node, query) => host.resolve rule node query

end Host

/-! ## Maps that answer at once -/

/-- The neighbourhood of a node. -/
def survey (view : RoadView K) (allows : Openness) (node : NodeId) : Except (Fault K) (Neighborhood K) :=
  (view.host allows).survey node

/-- The directions at a node for a query beside it. -/
def resolve [Scalar K] (view : RoadView K) (allows : Openness) (rule : SideRule K) (node : NodeId) (query : Point K) :
    Except (Fault K) Directions :=
  (view.host allows).resolve rule node query

/-! ### What they answer -/

theorem RoadView.inspect_host (view : RoadView K) (allows : Openness) (node : NodeId) :
    (view.host allows).inspect node = fun i => pure (i.arm allows) := rfl

/-- A known node's neighbourhood has one arm for each listed edge. -/
theorem survey_eq (view : RoadView K) (allows : Openness) (node : NodeId) :
    survey view allows node = (view.position? node).elim (.error (.unknownNode node)) fun position =>
      .ok ⟨node, position, (view.incidences node).map (·.arm allows)⟩ := by
  have arms : (view.incidences node).mapM ((view.host allows).inspect node) =
      pure ((view.incidences node).map (·.arm allows)) := by rw [view.inspect_host, List.mapM_pure]
  unfold survey Host.survey
  rw [show (view.host allows).position? node = (pure (view.position? node) : Id _) from rfl]
  cases view.position? node with
  | none => rfl
  | some position =>
    exact congrArg (fun arms => (Except.ok ⟨node, position, arms⟩ : Except (Fault K) (Neighborhood K))) arms

theorem RoadView.forM_note (view : RoadView K) (allows : Openness) (events : List (Event K)) :
    events.forM (view.host allows).note = pure () := by
  induction events <;> rfl

/-- The query is checked, then the node, and then the neighbourhood alone decides. -/
theorem resolve_eq [Scalar K] (view : RoadView K) (allows : Openness) (rule : SideRule K) (node : NodeId)
    (query : Point K) :
    resolve view allows rule node query =
      query.checked.bind fun query => (survey view allows node).map (·.directions rule query) := by
  unfold resolve Host.resolve survey
  cases query.checked with
  | error fault => rfl
  | ok query =>
    simp only [RoadView.forM_note, Except.bind]
    generalize (view.host allows).survey node = n
    cases n <;> rfl

end Roadside
