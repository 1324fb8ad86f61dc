import Roadside.Decimal.Literal
import Roadside.Decimal.Text
import Roadside.Event
import Roadside.Fault

/-!
# Wording

The sentences of this library: how positions, faults and events are put into words. Positions have six places, and
the components of a heading the fewest digits that read back.
-/

namespace Roadside

def Point.text (p : Point Float) : String :=
  "(" ++ Decimal.fixedPlaces 6 p.lat ++ ", " ++ Decimal.fixedPlaces 6 p.lon ++ ")"

def Heading.text (h : Heading Float) : String :=
  "Heading \x7b dx: " ++ Decimal.Style.detailed.text h.dx ++ ", dy: " ++ Decimal.Style.detailed.text h.dy ++ " \x7d"

def Fault.message : Fault Float → String
  | .unknownNode node => "node " ++ node.text ++ " not found"
  | .offGlobe point => "invalid coordinate " ++ point.text
  | .unsoundTolerance tolerance =>
    "invalid configuration: collinear_epsilon must be finite and >= 0, got " ++ Decimal.Style.plain.text tolerance
  | .unknownPreference text =>
    "parse error: unknown curbside '" ++ text ++ "', allowed: right, left, any"

def Decimal.LiteralFault.message : Decimal.LiteralFault → String
  | .empty => "cannot parse float from empty string"
  | .invalid => "invalid float literal"

/-- The words of an operating system about a file. -/
def systemMessage (reason : String) (code : Nat) : String := reason ++ " (os error " ++ toString code ++ ")"

def MapFault.message : MapFault → String
  | .unknownNode node => "node " ++ node.text ++ " not found in network"
  | .unreadable reason code => "I/O error: " ++ systemMessage reason code
  | .malformed reason => "OSM parse error: " ++ reason

def Level.text : Level → String
  | .trace => "TRACE"
  | .debug => "DEBUG"
  | .warn => "WARN"

def Event.text : Event Float → String
  | .armSeen node arm =>
    node.text ++ ": " ++ arm.edge.text ++ " → " ++ arm.far.text ++ " is " ++ arm.usage.text
  | .sideSeen heading edge query side =>
    "heading " ++ heading.text ++ " from " ++ edge.text ++ " puts " ++ query.text ++ " on the " ++ side.text
  | .resolved node query directions => node.text ++ " @ " ++ query.text ++ ": " ++ directions.text

def Notice.text : Notice → String
  | .missingNodes way count =>
    "way " ++ toString way ++ " references " ++ toString count ++ " node(s) missing from the extract"
  | .loaded roads nodes edges =>
    "loaded " ++ toString roads ++ " road ways → " ++ toString nodes ++ " nodes, " ++ toString edges ++ " edges"

end Roadside
