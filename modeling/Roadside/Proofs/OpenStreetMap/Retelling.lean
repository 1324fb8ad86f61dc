import Mathlib.Logic.Relation
import Roadside.Proofs.OpenStreetMap.Renaming

/-!
# What a map depends on

Of a way for cars the map takes the nodes that it names, its first `access` and `oneway` tags and, of its class, whether
such roads are one-way by nature. Of the nodes that these ways name it takes where their last elements put them. Nothing
else in an extract matters, and no order except that of the ways for cars.

* **Extracts that agree on the roads** have the same lines (`AgreeOnRoads.lines_eq`).
* **An edit keeps the roads** (`Edit.agreeOnRoads`): an idle element is left out, a node is moved, or a way gets another
  name and other tags besides the ones that count. So do edits one after the other, done or undone
  (`agreeOnRoads_of_eqvGen`).
* **The map** is the same for all these extracts, and for other names of nodes (`roadMap_dependsOnRoads`).
-/

namespace Roadside.OpenStreetMap

/-! ## What is told about roads -/

/-- What the map takes from a way for cars. -/
structure RoadFacts where
  refs : List Int
  /-- Roads of its class are one-way unless a tag says otherwise. -/
  oneWay : Bool
  accessTag : Option String
  oneWayTag : Option String
  deriving DecidableEq

namespace RoadFacts

def ofWay (w : Way) (highway : String) : RoadFacts :=
  ⟨w.refs, oneWayByNature.contains highway, Tags.value? w.tags "access", Tags.value? w.tags "oneway"⟩

/-- The directions in which the road is open. -/
def access (facts : RoadFacts) : Access :=
  if facts.accessTag.any fun value => value = "no" || value = "private" then .closed
  else (facts.oneWayTag.bind Tags.oneWayAccess?).getD (if facts.oneWay then .forwardOnly else .both)

theorem access_ofWay (w : Way) (highway : String) : Tags.access w.tags highway = (ofWay w highway).access := rfl

end RoadFacts

def Element.roadFacts? : Element → Option RoadFacts
  | .way w => (Tags.highway? w.tags).map (RoadFacts.ofWay w)
  | .node .. | .relation _ => none

/-- What an extract tells about its ways for cars, in order. -/
def roadFacts (elements : List Element) : List RoadFacts := elements.filterMap Element.roadFacts?

/-- Two extracts tell the same about their ways for cars, and about where the nodes are that these ways name. -/
structure AgreeOnRoads (elements elements' : List Element) : Prop where
  facts : roadFacts elements' = roadFacts elements
  places : ∀ facts ∈ roadFacts elements, ∀ ref ∈ facts.refs, lastPosition? elements' ref = lastPosition? elements ref

section Facts

variable {elements elements' elements'' : List Element}

theorem roadFacts_append (elements elements' : List Element) :
    roadFacts (elements ++ elements') = roadFacts elements ++ roadFacts elements' := List.filterMap_append

theorem roadFacts_cons (e : Element) (elements : List Element) :
    roadFacts (e :: elements) = e.roadFacts?.toList ++ roadFacts elements := by
  rw [roadFacts, List.filterMap_cons]
  cases e.roadFacts? <;> rfl

/-- The lines of the roads, from what is told about them. -/
theorem lines_eq (elements : List Element) :
    lines elements = (roadFacts elements).map fun facts => ⟨facts.access, locate (positions elements) facts.refs⟩ := by
  rw [lines, courses_eq, roadFacts, List.map_filterMap, List.map_filterMap, List.map_filterMap]
  apply List.filterMap_congr
  intro e _
  cases e with
  | way w =>
    rw [Element.drivable?, Element.roadFacts?]
    cases Tags.highway? w.tags with
    | none => rfl
    | some highway => simp only [Option.map_some, Course.line, courseOf, RoadFacts.access_ofWay, RoadFacts.ofWay]
  | node | relation => rfl

namespace AgreeOnRoads

theorem refl (elements : List Element) : AgreeOnRoads elements elements := ⟨rfl, fun _ _ _ _ => rfl⟩

theorem symm (h : AgreeOnRoads elements elements') : AgreeOnRoads elements' elements := by
  constructor
  case facts => exact h.facts.symm
  case places =>
    intro facts told ref named
    rw [h.facts] at told
    exact (h.places facts told ref named).symm

theorem trans (h : AgreeOnRoads elements elements') (h' : AgreeOnRoads elements' elements'') :
    AgreeOnRoads elements elements'' := by
  constructor
  case facts => exact h'.facts.trans h.facts
  case places =>
    intro facts told ref named
    have told' : facts ∈ roadFacts elements' := by rwa [h.facts]
    rw [h'.places facts told' ref named, h.places facts told ref named]

/-- Extracts that agree on the roads have the same lines. -/
theorem lines_eq (h : AgreeOnRoads elements elements') : lines elements' = lines elements := by
  rw [OpenStreetMap.lines_eq, OpenStreetMap.lines_eq, h.facts]
  apply List.map_congr_left
  intro facts told
  have located : locate (positions elements') facts.refs = locate (positions elements) facts.refs := by
    rw [locate_positions, locate_positions]
    apply List.filterMap_congr
    intro ref named
    rw [h.places facts told ref named]
  rw [located]

end AgreeOnRoads

end Facts

/-! ## Edits that keep the roads -/

/-- The extract tells nothing about roads by the element. -/
def Element.IsIdle (elements : List Element) : Element → Prop
  | .node id _ => ∀ facts ∈ roadFacts elements, id ∉ facts.refs
  | .way w => Tags.highway? w.tags = none
  | .relation _ => True

/-- The keys of the tags that count. -/
def roadKeys : List String := ["highway", "access", "oneway"]

/-- A small difference between extracts that matters for no road. -/
inductive Edit : List Element → List Element → Prop
  | leaveOut (before : List Element) (e : Element) (after : List Element) (idle : e.IsIdle (before ++ after)) :
    Edit (before ++ e :: after) (before ++ after)
  /-- A node may trade places with any element but a node of the same name. -/
  | moveNode (before : List Element) (id : Int) (position : Point Float) (e : Element) (after : List Element)
    (other : ∀ position', e ≠ .node id position') :
    Edit (before ++ .node id position :: e :: after) (before ++ e :: .node id position :: after)
  /-- A way may get another name, and other tags after the first ones with the keys that count. -/
  | retag (before : List Element) (w w' : Way) (after : List Element) (refs : w'.refs = w.refs)
    (tags : ∀ key ∈ roadKeys, Tags.value? w'.tags key = Tags.value? w.tags key) :
    Edit (before ++ .way w :: after) (before ++ .way w' :: after)

/-- Only a node element with the name says where a node is. -/
theorem positionOf?_eq_none {e : Element} {ref : Int} (other : ∀ position, e ≠ .node ref position) :
    e.positionOf? ref = none := by
  cases e with
  | node id position =>
    rw [Element.positionOf?, if_neg]
    rintro rfl
    exact other position rfl
  | way | relation => rfl

/-- Extracts that differ in the middle agree on the roads if they agree there. -/
theorem AgreeOnRoads.of_middle {before after : List Element} (middle middle' : List Element)
    (facts : roadFacts middle' = roadFacts middle)
    (places : ∀ facts ∈ roadFacts (before ++ (middle ++ after)), ∀ ref ∈ facts.refs,
      lastPosition? middle' ref = lastPosition? middle ref) :
    AgreeOnRoads (before ++ (middle ++ after)) (before ++ (middle' ++ after)) := by
  constructor
  case facts => rw [roadFacts_append, roadFacts_append, facts, roadFacts_append, roadFacts_append]
  case places =>
    intro told mem ref named
    have middle := places told mem ref named
    rw [lastPosition?_append, lastPosition?_append, middle, lastPosition?_append, lastPosition?_append]

theorem Element.IsIdle.roadFacts?_eq_none {elements : List Element} {e : Element} (idle : e.IsIdle elements) :
    e.roadFacts? = none := by
  cases e with
  | way w =>
    have undrivable : Tags.highway? w.tags = none := idle
    rw [Element.roadFacts?, undrivable, Option.map_none]
  | node | relation => rfl

/-- An edit keeps the roads. -/
theorem Edit.agreeOnRoads {elements elements' : List Element} (edit : Edit elements elements') :
    AgreeOnRoads elements elements' := by
  cases edit with
  | leaveOut before e after idle =>
    have nothing : roadFacts [e] = [] := by
      rw [roadFacts_cons, idle.roadFacts?_eq_none]
      rfl
    have same : roadFacts (before ++ ([e] ++ after)) = roadFacts (before ++ after) := by
      rw [roadFacts_append, roadFacts_append, nothing, List.nil_append, roadFacts_append]
    apply AgreeOnRoads.of_middle [e] []
    case facts => exact nothing.symm
    case places =>
      intro facts told ref named
      rw [same] at told
      rw [lastPosition?_cons, positionOf?_eq_none, Option.or_none]
      -- an idle node has none of the names that count
      rintro position rfl
      exact idle facts told named
  | moveNode before id position e after other =>
    apply AgreeOnRoads.of_middle [.node id position, e] [e, .node id position]
    case facts =>
      -- a node tells nothing about roads, wherever it stands
      rw [roadFacts_cons, roadFacts_cons, roadFacts_cons, roadFacts_cons]
      rfl
    case places =>
      intro facts _ ref _
      rw [lastPosition?_cons, lastPosition?_cons, lastPosition?_cons, lastPosition?_cons]
      -- at most one of the two elements says where a node of this name is
      by_cases here : id = ref
      · rw [← here, positionOf?_eq_none other, Option.or_none, Option.or_none]
      · have elsewhere : (Element.node id position).positionOf? ref = none := if_neg here
        rw [elsewhere, Option.or_none, Option.or_none]
  | retag before w w' after refs tags =>
    have highway : Tags.highway? w'.tags = Tags.highway? w.tags := by
      rw [Tags.highway?, tags "highway" (by decide), Tags.highway?]
    have told (highway : String) : RoadFacts.ofWay w' highway = RoadFacts.ofWay w highway := by
      rw [RoadFacts.ofWay, refs, tags "access" (by decide), tags "oneway" (by decide), RoadFacts.ofWay]
    apply AgreeOnRoads.of_middle [.way w] [.way w']
    case facts => rw [roadFacts_cons, roadFacts_cons, Element.roadFacts?, Element.roadFacts?, highway, funext told]
    case places => exact fun _ _ _ _ => rfl

/-- Edits keep the roads, however many there are and whether they are done or undone. -/
theorem agreeOnRoads_of_eqvGen {elements elements' : List Element} (edits : Relation.EqvGen Edit elements elements') :
    AgreeOnRoads elements elements' := by
  induction edits with
  | rel _ _ edit => exact edit.agreeOnRoads
  | refl elements => exact .refl elements
  | symm _ _ _ ih => exact ih.symm
  | trans _ _ _ _ _ ih ih' => exact ih.trans ih'

/-! ## The map of an extract -/

/-- **The map depends on the roads alone**: it is the same for all extracts that agree on the roads, for all that edits
make of the extract, and for all names of nodes that keep different nodes apart. -/
theorem roadMap_dependsOnRoads (elements : List Element) : ∃ map, (roadMap elements).map (·.1) = .ok map ∧
    (∀ elements', AgreeOnRoads elements elements' → (roadMap elements').map (·.1) = .ok map) ∧
    (∀ elements', Relation.EqvGen Edit elements elements' → (roadMap elements').map (·.1) = .ok map) ∧
    ∀ f : Int → Int, Function.Injective f →
      (roadMap (elements.map (Element.rename f))).map (·.1) = .ok map := by
  obtain ⟨plot, notices, made, -, -⟩ := roadMap_eq elements
  have map : (roadMap elements).map (·.1) = .ok plot.draft.build := by
    rw [made]
    rfl
  have agreed (elements' : List Element) (h : AgreeOnRoads elements elements') :
      (roadMap elements').map (·.1) = .ok plot.draft.build := by
    rw [map_fst_roadMap_eq, h.lines_eq, ← map_fst_roadMap_eq, map]
  refine ⟨_, map, agreed, ?_, ?_⟩
  · intro elements' edits
    exact agreed elements' (agreeOnRoads_of_eqvGen edits)
  · intro f inj
    rw [map_fst_roadMap_rename inj, map]

/-- A lane and its nodes. -/
def plainLane : List Element :=
  [.node 1 ⟨0, 0⟩, .node 2 ⟨0, 10000⟩, .way ⟨10, [1, 2], [("highway", "residential")]⟩]

/-- The same lane, told in another order: its class is another one and tagged twice, its second node comes with an older
position as well, and a footpath goes on from there. -/
def retoldLane : List Element :=
  [.way ⟨11, [1, 2], [("name", "Elm Lane"), ("highway", "service"), ("highway", "motorway")]⟩, .node 2 ⟨7, 7⟩,
    .way ⟨12, [2, 3], [("highway", "footway")]⟩, .node 3 ⟨5, 0⟩, .relation 4, .node 2 ⟨0, 10000⟩, .node 1 ⟨0, 0⟩]

/-- The lane with its second node after the way, another name and another tag for the way, and a relation. -/
def editedLane : List Element :=
  [.node 1 ⟨0, 0⟩, .relation 4, .way ⟨11, [1, 2], [("highway", "residential"), ("surface", "gravel")]⟩,
    .node 2 ⟨0, 10000⟩]

theorem agreeOnRoads_retoldLane : AgreeOnRoads plainLane retoldLane := by
  have told : roadFacts plainLane = [⟨[1, 2], false, none, none⟩] := by decide +kernel
  constructor
  case facts => decide +kernel
  case places =>
    intro facts mem ref named
    rw [told, List.mem_singleton] at mem
    subst mem
    rcases List.mem_pair.1 named with rfl | rfl
    · rfl
    · rfl

theorem eqvGen_edit_editedLane : Relation.EqvGen Edit plainLane editedLane := by
  have moved := Edit.moveNode [.node 1 ⟨0, 0⟩] 2 ⟨0, 10000⟩ (.way ⟨10, [1, 2], [("highway", "residential")]⟩) []
    fun _ => by simp
  have tagged := Edit.retag [.node 1 ⟨0, 0⟩] ⟨10, [1, 2], [("highway", "residential")]⟩
    ⟨11, [1, 2], [("highway", "residential"), ("surface", "gravel")]⟩ [.node 2 ⟨0, 10000⟩] rfl (by decide)
  have related := Edit.leaveOut [.node 1 ⟨0, 0⟩] (.relation 4)
    [.way ⟨11, [1, 2], [("highway", "residential"), ("surface", "gravel")]⟩, .node 2 ⟨0, 10000⟩] trivial
  exact .trans _ _ _ (.rel _ _ moved) (.trans _ _ _ (.rel _ _ tagged) (.symm _ _ (.rel _ _ related)))

/-- Retold, edited or with other names for its nodes, the lane is the same. -/
theorem roadMap_dependsOnRoads_plainLane : ∃ map, (roadMap plainLane).map (·.1) = .ok map ∧
    AgreeOnRoads plainLane retoldLane ∧ (roadMap retoldLane).map (·.1) = .ok map ∧
    Relation.EqvGen Edit plainLane editedLane ∧ (roadMap editedLane).map (·.1) = .ok map ∧
    Function.Injective (fun ref : Int => -ref) ∧
    (roadMap (plainLane.map (Element.rename fun ref => -ref))).map (·.1) = .ok map := by
  obtain ⟨map, made, agreed, edited, renamed⟩ := roadMap_dependsOnRoads plainLane
  have apart : Function.Injective (fun ref : Int => -ref) := fun _ _ same => Int.neg_inj.1 same
  exact ⟨map, made, agreeOnRoads_retoldLane, agreed _ agreeOnRoads_retoldLane, eqvGen_edit_editedLane,
    edited _ eqvGen_edit_editedLane, apart, renamed _ apart⟩

end Roadside.OpenStreetMap
