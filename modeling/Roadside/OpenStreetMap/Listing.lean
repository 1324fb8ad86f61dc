import Roadside.OpenStreetMap.Element

/-!
# Extracts as text

An extract as a text with one element a line, its fields set apart by tabs:

```text
node      name   latitude   longitude      (ten-millionths of a degree)
way       name   nodes, set apart by blanks   key=value   key=value   …
relation  name
```

A text of no lines is an extract of no elements.
-/

namespace Roadside.OpenStreetMap

/-- The point at so many ten-millionths of a degree: the whole number of billionths is scaled once. -/
def pointOfUnits (lat lon : Int) : Point Float := ⟨1e-9 * Float.ofInt (100 * lat), 1e-9 * Float.ofInt (100 * lon)⟩

/-- The key and the value of a tag; the first equals sign stands between them. -/
def tagOfField (field : String) : String × String :=
  let (key, rest) := field.toList.span (· ≠ '=')
  (String.ofList key, String.ofList (rest.drop 1))

/-- The element on a line. -/
def Element.ofLine? (line : String) : Option Element :=
  match line.splitOn "\t" with
  | ["node", id, lat, lon] => return .node (← id.toInt?) (pointOfUnits (← lat.toInt?) (← lon.toInt?))
  | "way" :: id :: refs :: tags =>
    return .way ⟨← id.toInt?, ← ((refs.splitOn " ").filter (· ≠ "")).mapM String.toInt?, tags.map tagOfField⟩
  | "relation" :: id :: _ => return .relation (← id.toInt?)
  | _ => none

/-- The elements on the lines of a text; lines without any text do not count. -/
def elementsOfText? (text : String) : Option (List Element) :=
  ((text.splitOn "\n").filter (· ≠ "")).mapM Element.ofLine?

end Roadside.OpenStreetMap
