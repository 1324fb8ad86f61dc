import Roadside.Index
import Roadside.Wording

/-!
# The command line

A run with arguments answers for one location on a map that is read from a file. `run` is the whole of it, in any
monad that can load a map: the arguments are checked first, and the file is loaded only if all of them can be read.
Which node is near the location is left to an `Index`, and how a failure is laid out to a `Report`.

* `Failure` names what can end a run early, in the order in which it is found out.
* `Request.ofArguments` reads the arguments, `Request.respond` answers from a loaded map.
-/

namespace Roadside.CommandLine

/-! ## What can go wrong -/

/-- Why a run ends without directions. -/
inductive Failure where
  | usage
  | latitude (fault : Decimal.LiteralFault)
  | longitude (fault : Decimal.LiteralFault)
  | map (fault : MapFault)
  | noNodes
  /-- The map is there, or is not asked yet, and the request is at fault. -/
  | request (fault : Fault Float)
  deriving DecidableEq

namespace Failure

def message : Failure → String
  | .usage => "usage: curbside <file.osm.pbf> <lat> <lon> [right|left|any]"
  | .latitude _ => "latitude is not a number"
  | .longitude _ => "longitude is not a number"
  | .map fault => fault.message
  | .noNodes => "network has no nodes"
  | .request fault => fault.message

/-- What is behind a failure, if more can be said. -/
def cause? : Failure → Option String
  | .latitude fault | .longitude fault => some fault.message
  | .map (.unreadable reason code) => some (systemMessage reason code)
  | _ => none

end Failure

/-- Lays out an error, given its message and what is behind it, if more can be said. -/
abbrev Report := String → Option String → String

namespace Report

/-- What is expected of a report: it starts with the message. -/
def BeginsWithMessage (report : Report) : Prop :=
  ∀ message cause?, ∃ rest, report message cause? = message ++ rest

/-- The message, and what is behind it below. -/
def plain : Report := fun message cause? =>
  message ++ cause?.elim "" fun cause => "\n\nCaused by:\n    " ++ cause

theorem plain_beginsWithMessage : plain.BeginsWithMessage := fun _ _ => ⟨_, rfl⟩

end Report

/-! ## Requests -/

structure Request where
  path : String
  query : Point Float
  preference : Preference
  deriving DecidableEq

/-- Reads the arguments: a file, a latitude, a longitude, and a preference if there is a fourth one. -/
def Request.ofArguments : List String → Except Failure Request
  | path :: lat :: lon :: rest => do
    let lat ← (Decimal.floatOfText lat).mapError .latitude
    let lon ← (Decimal.floatOfText lon).mapError .longitude
    let preference ← (Preference.ofText (rest.head?.getD "")).mapError .request
    return ⟨path, ⟨lat, lon⟩, preference⟩
  | _ => .error .usage

/-- The node nearest to the query and the directions there. -/
def Request.respond (index : Index Float) (r : Request) (map : RoadMap Float) : Except Failure (NodeId × Directions) :=
  match index.nearest? map r.query with
  | none => .error .noNodes
  | some node => ((resolve map.view map.allows .standard node r.query).mapError .request).map (node, ·)

/-! ## Output -/

/-- Texts side by side in columns of the table, each filled up with blanks to the width of its column. -/
def row (cells : List String) : String :=
  let widths := [26, 11, 6, 12, 12]
  " ".intercalate (List.zipWith (fun cell width => String.ofList (cell.toList.rightpad width ' ')) cells widths)

/-- What a run shows. -/
structure Outcome where
  output : List String
  errors : List String
  exitCode : UInt32
  deriving DecidableEq

namespace Outcome

def success (output : List String) : Outcome := ⟨output, [], 0⟩

/-- The run ended early, after some output. -/
def failure (report : Report) (output : List String) (f : Failure) : Outcome :=
  ⟨output, ["Error: " ++ report f.message f.cause?], 1⟩

end Outcome

/-- The line that says what has been loaded, in how many seconds. -/
def loadedLine (map : RoadMap Float) (seconds : Float) : String :=
  "Loaded " ++ toString map.nodeCount ++ " nodes, " ++ toString map.edgeCount ++ " edges in " ++
    Decimal.fixedPlaces 2 seconds ++ " s"

/-- The row of the table for a place beside a node, with what its directions ask for. -/
def directionsRow (node : NodeId) (query : Point Float) (directions : Directions) (preference : Preference) : String :=
  row [query.text, node.text, preference.text, (directions.arrival preference).text,
    (directions.departure preference).text]

def Request.lines (r : Request) (node : NodeId) (directions : Directions) : List String :=
  [(Event.resolved node r.query directions).text, directionsRow node r.query directions r.preference]

/-! ## Runs -/

/-- A map that was asked for, and how many seconds that took. -/
structure Loading where
  result : Except MapFault (RoadMap Float)
  seconds : Float

/-- What is shown for a request once its map has been asked for. -/
def Request.outcome (index : Index Float) (report : Report) (r : Request) (loading : Loading) : Outcome :=
  match loading.result with
  | .error fault => .failure report [] (.map fault)
  | .ok map =>
    let loaded := loadedLine map loading.seconds
    match r.respond index map with
    | .error failure => .failure report [loaded] failure
    | .ok (node, directions) => .success (loaded :: r.lines node directions)

def run {m : Type → Type} [Monad m] (index : Index Float) (report : Report) (load : String → m Loading)
    (arguments : List String) : m Outcome :=
  match Request.ofArguments arguments with
  | .error failure => pure (.failure report [] failure)
  | .ok request => request.outcome index report <$> load request.path

end Roadside.CommandLine
