import Roadside.CommandLine
import Roadside.Demo.Town

/-!
# A tour of the town

A run without arguments visits the landmarks of the town and asks for directions to a place just north and just south
of each. Then it asks for a batch of places drawn at random, each from the node nearest to it, and shows the answers in
a table. The draws are handed in, so that the tour itself leaves nothing to chance.
-/

namespace Roadside.Demo

open CommandLine

/-! ## Showing -/

/-- What has been shown so far. -/
structure Transcript where
  output : List String := []
  errors : List String := []

/-- A program that shows lines as it goes on and may come to a failure. -/
abbrev Telling := ExceptT Failure (StateM Transcript)

def say (line : String) : Telling Unit := modify fun t => { t with output := t.output ++ [line] }

def complain (line : String) : Telling Unit := modify fun t => { t with errors := t.errors ++ [line] }

/-! ## Landmarks -/

/-- How far from the node each place is, to the north. -/
def offsets : List (String × Float) := [("north", 0.0002), ("south", -0.0002)]

/-- Tells the directions for the places beside a node. -/
def visit (map : RoadMap Float) (name : String) (node : NodeId) : Telling Unit := do
  let some position := map.position? node | throw (.request (.unknownNode node))
  say (name ++ ":")
  for (label, offset) in offsets do
    let answer := resolve map.view map.allows .standard node ⟨position.lat + offset, position.lon⟩
    let directions ← MonadExcept.ofExcept (answer.mapError Failure.request)
    say ("  " ++ String.ofList (label.toList.rightpad 6 ' ') ++ " " ++ directions.text)

/-! ## Random places -/

/-- A place beside one of the nodes and the side that is wanted there. -/
structure Draw where
  node : Nat
  offset : Point Float
  preference : Preference

/-- The draw as a query at the nearest node. -/
def Draw.request? (index : Index Float) (map : RoadMap Float) (draw : Draw) :
    Option ((NodeId × Point Float) × Preference) := do
  let around ← map.positions[draw.node]?
  let query : Point Float := ⟨around.lat + draw.offset.lat, around.lon + draw.offset.lon⟩
  let node ← index.nearest? map query
  return ((node, query), draw.preference)

/-- Shows the answer to a query as a row of the table, or why there is none. -/
def tabulate (request : (NodeId × Point Float) × Preference) (answer : Except (Fault Float) Directions) :
    Telling Unit :=
  let ((node, query), preference) := request
  match answer with
  | .ok directions => say (directionsRow node query directions preference)
  | .error fault => complain (node.text ++ " @ " ++ query.text ++ ": " ++ fault.message)

/-! ## The whole tour -/

def tour (index : Index Float) (draws : List Draw) : Telling Unit := do
  say "=== curbside — direction resolution demo ==="
  say "Seed: 42  |  Random queries: 12"
  say ""
  let (map, landmarks) ← MonadExcept.ofExcept (town.mapError Failure.map)
  say ("Road network: " ++ toString map.nodeCount ++ " nodes, " ++ toString map.edgeCount ++ " edges")
  say ""
  visit map "main street" landmarks.mainStreet
  visit map "one-way street" landmarks.oneWayMiddle
  visit map "junction" landmarks.junction
  visit map "cul-de-sac" landmarks.culDeSac
  say ""
  let requests := draws.filterMap (·.request? index map)
  let answers := (map.view.host map.allows).resolveAll .standard (requests.map (·.1))
  say (row ["Query", "Node", "Curb", "Arrive", "Depart"])
  say (String.ofList (List.replicate 71 '-'))
  for (request, answer) in requests.zip answers do
    tabulate request answer

/-- A run without arguments. -/
def outcome (index : Index Float) (report : Report) (draws : List Draw) : Outcome :=
  let (result, shown) := (tour index draws).run.run {}
  match result with
  | .ok () => ⟨shown.output, shown.errors, 0⟩
  | .error failure =>
    let ended := Outcome.failure report shown.output failure
    { ended with errors := shown.errors ++ ended.errors }

end Roadside.Demo
