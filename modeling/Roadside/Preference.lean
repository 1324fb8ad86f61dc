import Roadside.Bearing
import Roadside.Text.Blank

/-!
# The wanted side

A traveller may want to arrive or leave on one side of the road, or not care. The wish is written `right`, `left` or
`any`; letter case and blanks around it do not matter, and no text at all means `any`.

* Every written preference is read back (`ofText_text`).
-/

namespace Roadside

/-- The side of the road that a traveller asks for. -/
inductive Preference where
  | on (side : Side)
  | any
  deriving DecidableEq

namespace Preference

def text : Preference → String
  | .on side => side.text
  | .any => "any"

/-- The preference that a bare word in small letters names. -/
def ofWord? (word : List Char) : Option Preference :=
  if word = [] ∨ word = "any".toList then some .any
  else if word = "right".toList then some (.on .right)
  else if word = "left".toList then some (.on .left)
  else none

/-- Reads a preference; only the ASCII letters have a small form here. -/
def ofText {K : Type} (text : String) : Except (Fault K) Preference :=
  let word := Text.trim text.toList
  match ofWord? (word.map Char.toLower) with
  | some preference => .ok preference
  | none => .error (.unknownPreference (String.ofList word))

theorem ofText_text {K : Type} (p : Preference) : (ofText p.text : Except (Fault K) Preference) = .ok p := by
  rcases p with (_ | _) | _ <;> rfl

end Preference

end Roadside
