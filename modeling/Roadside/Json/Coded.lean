import Roadside.Bearing
import Roadside.Directions
import Roadside.Json.Value
import Roadside.Traffic

/-!
# Values in JSON

How the values of this library are written in JSON and read back. Reading accepts more than writing produces: members
in any order and beside unknown ones, lists in place of records, and `null` beside the name of a bare case.

| Type                | Form                                                                     |
|---------------------|--------------------------------------------------------------------------|
| `Ident`             | a whole number                                                           |
| `Float`             | any number                                                               |
| `Point`             | `lat`, `lon`                                                             |
| `Access`            | `forward`, `backward`                                                    |
| `Side`, `Preference`| a word in small letters                                                  |
| `SideRule`          | `tie_side`, `collinear_epsilon`                                          |
| `Demand`            | `Any`, `Forbidden`, or `Exactly` with an edge                            |
| `Directions`        | `kind`, and the edges by name                                            |
-/

namespace Roadside

/-- Types whose values have a JSON form. -/
class Coded (α : Type) where
  encode : α → Json
  decode? : Json → Option α

namespace Coded

instance : Coded Bool where
  encode := .bool
  decode?
    | .bool b => some b
    | _ => none

instance : Coded Float where
  encode := .decimal
  decode?
    | .whole n => some (Float.ofInt n)
    | .decimal x => some x
    | _ => none

instance {kind : Kind} : Coded (Ident kind) where
  encode i := .whole i.index
  decode?
    | .whole n => if 0 ≤ n ∧ n.toNat < UInt32.size then some (.ofIndex n.toNat) else none
    | _ => none

instance {K : Type} [Coded K] : Coded (Point K) where
  encode p := .record [("lat", encode p.lat), ("lon", encode p.lon)]
  decode? json := do
    match ← json.members? ["lat", "lon"] with
    | [lat, lon] => return ⟨← decode? lat, ← decode? lon⟩
    | _ => none

instance : Coded Access where
  encode a := .record [("forward", encode a.forward), ("backward", encode a.backward)]
  decode? json := do
    match ← json.members? ["forward", "backward"] with
    | [forward, backward] => return ⟨← decode? forward, ← decode? backward⟩
    | _ => none

instance : Coded Side where
  encode s := .text s.text
  decode? json := do
    match ← json.word? with
    | "right" => some .right
    | "left" => some .left
    | _ => none

instance : Coded Preference where
  encode p := .text p.text
  decode? json := do
    match ← json.word? with
    | "right" => some (.on .right)
    | "left" => some (.on .left)
    | "any" => some .any
    | _ => none

instance {K : Type} [Coded K] : Coded (SideRule K) where
  encode r := .record [("tie_side", encode r.tieSide), ("collinear_epsilon", encode r.tolerance)]
  decode? json := do
    match ← json.members? ["tie_side", "collinear_epsilon"] with
    | [tieSide, tolerance] => return ⟨← decode? tieSide, ← decode? tolerance⟩
    | _ => none

instance : Coded Demand where
  encode
    | .any => .text "Any"
    | .forbidden => .text "Forbidden"
    | .exactly edge => .record [("Exactly", encode edge)]
  decode? json := do
    match ← json.choice? with
    | ("Any", .null) => some .any
    | ("Forbidden", .null) => some .forbidden
    | ("Exactly", edge) => return .exactly (← decode? edge)
    | _ => none

/-! ## Directions -/

/-- A value with a `kind`, as that kind and the rest. In a list the kind comes first. -/
def kind? : Json → Option (String × Json)
  | .record members => do
    let .text kind ← Json.member? "kind" members | none
    return (kind, .record (members.filter (·.1 ≠ "kind")))
  | .list (.text kind :: items) => some (kind, .list items)
  | _ => none

/-- Nothing of interest: a record of any members, or a list of none. -/
def isBare : Json → Bool
  | .record _ | .list [] => true
  | _ => false

/-- The pairing of two members. -/
def pairing? (arrive depart : Json) : Option Pairing := return ⟨← decode? arrive, ← decode? depart⟩

/-- The only pairing, on a side. -/
def only? (side : Side) (rest : Json) : Option Directions := do
  match ← rest.members? ["in_edge", "out_edge"] with
  | [arrive, depart] => return .only side (← pairing? arrive depart)
  | _ => none

/-- The pairings on both sides. -/
def both? (rest : Json) : Option Directions := do
  match ← rest.members? ["right_in", "right_out", "left_in", "left_out"] with
  | [rightIn, rightOut, leftIn, leftOut] => return .both (← pairing? rightIn rightOut) (← pairing? leftIn leftOut)
  | _ => none

instance : Coded Directions where
  encode
    | .impossible => .record [("kind", .text "impossible")]
    | .unrestricted => .record [("kind", .text "unrestricted")]
    | .both right left =>
      .record [("kind", .text "restricted"), ("right_in", encode right.arrive), ("right_out", encode right.depart),
        ("left_in", encode left.arrive), ("left_out", encode left.depart)]
    | .only side pairing =>
      .record [("kind", .text ("only_" ++ side.text)), ("in_edge", encode pairing.arrive),
        ("out_edge", encode pairing.depart)]
  decode? json := do
    let (kind, rest) ← kind? json
    match kind with
    | "impossible" => if isBare rest then some .impossible else none
    | "unrestricted" => if isBare rest then some .unrestricted else none
    | "restricted" => both? rest
    | "only_right" => only? .right rest
    | "only_left" => only? .left rest
    | _ => none

end Coded

end Roadside
