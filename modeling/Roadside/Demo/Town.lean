import Roadside.Draft

/-!
# A small town

Seven nodes on a few blocks, laid out so that every kind of answer shows up at least once.

```text
 oneWayStart ──▶ oneWayMiddle ──▶ oneWayEnd
      │                               │
   westEnd ────── mainStreet ───── junction
                                      ╰─╮
                                     culDeSac
```
-/

namespace Roadside.Demo

/-- The nodes of the town that are worth a visit. -/
structure Landmarks where
  /-- The middle of a street open both ways. -/
  mainStreet : NodeId
  /-- The middle of a one-way street. -/
  oneWayMiddle : NodeId
  /-- Three streets meet. -/
  junction : NodeId
  /-- The end of a street that leads nowhere. -/
  culDeSac : NodeId

/-- The map of the town. -/
def town : Except MapFault (RoadMap Float × Landmarks) := do
  let (oneWayStart, draft) := Draft.empty.addNode ⟨30.695, -88.060⟩
  let (oneWayMiddle, draft) := draft.addNode ⟨30.695, -88.050⟩
  let (oneWayEnd, draft) := draft.addNode ⟨30.695, -88.040⟩
  let (westEnd, draft) := draft.addNode ⟨30.690, -88.060⟩
  let (mainStreet, draft) := draft.addNode ⟨30.690, -88.050⟩
  let (junction, draft) := draft.addNode ⟨30.690, -88.040⟩
  let (culDeSac, draft) := draft.addNode ⟨30.685, -88.035⟩
  let (_, draft) ← draft.addOneWay oneWayStart oneWayMiddle
  let (_, draft) ← draft.addOneWay oneWayMiddle oneWayEnd
  let (_, draft) ← draft.addRoad westEnd oneWayStart
  let (_, draft) ← draft.addRoad westEnd mainStreet
  let (_, draft) ← draft.addRoad mainStreet junction
  let (_, draft) ← draft.addRoad oneWayEnd junction
  -- It bends south before it swings east.
  let (_, draft) ← draft.addSegment ⟨⟨junction, culDeSac⟩, .both, [⟨30.686, -88.040⟩]⟩
  return (draft.build, ⟨mainStreet, oneWayMiddle, junction, culDeSac⟩)

end Roadside.Demo
