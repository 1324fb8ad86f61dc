import Roadside.CommandLine
import Roadside.Demo.Tour
import Roadside.OpenStreetMap.Extract
import Roadside.OpenStreetMap.Listing

/-!
# The program

Reads the file that the arguments name, and shows the outcome of the run.
-/

namespace Roadside

/-- The map in a file. -/
def loadMap (path : String) : IO (Except MapFault (RoadMap Float)) := do
  match ← (IO.FS.readFile path).toBaseIO with
  | .ok text =>
    match OpenStreetMap.elementsOfText? text with
    | some elements => return (OpenStreetMap.roadMap elements).map (·.1)
    | none => return .error (.malformed "a line is no element")
  | .error (.noFileOrDirectory _ code _) =>
    -- Some systems give the negative of the number.
    return .error (.unreadable "No such file or directory" (min code (0 - code)).toNat)
  | .error fault => return .error (.malformed (toString fault))

/-- The map in a file, and how long it took to have it. -/
def timedMap (path : String) : IO CommandLine.Loading := do
  let start ← IO.monoMsNow
  let result ← loadMap path
  let stop ← IO.monoMsNow
  return ⟨result, Float.ofNat (stop - start) / 1000⟩

/-- A double between a bound and its negative. -/
def drawOffset (bound : Float) : IO Float := do
  let n ← IO.rand 0 1000000
  return bound * (Float.ofNat n / 500000 - 1)

/-- The places for the end of the tour, from a fixed seed. -/
def drawPlaces (count : Nat) : IO (List Demo.Draw) := do
  let nodes := match Demo.town with
    | .ok (map, _) => map.nodeCount
    | .error _ => 0
  IO.setRandSeed 42
  (List.range count).mapM fun _ => do
    let node ← IO.rand 0 (nodes - 1)
    let offset := ⟨← drawOffset 0.003, ← drawOffset 0.003⟩
    let preference ← IO.rand 0 2
    return ⟨node, offset, if preference = 0 then .on .right else if preference = 1 then .on .left else .any⟩

end Roadside

def main (arguments : List String) : IO UInt32 := do
  let outcome ←
    if arguments.isEmpty then
      pure (Roadside.Demo.outcome .sorting .plain (← Roadside.drawPlaces 12))
    else
      Roadside.CommandLine.run .sorting .plain Roadside.timedMap arguments
  outcome.output.forM IO.println
  outcome.errors.forM IO.eprintln
  return outcome.exitCode
