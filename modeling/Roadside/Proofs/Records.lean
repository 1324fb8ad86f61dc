import Roadside.Proofs.Across
import Roadside.Proofs.Inquiries
import Roadside.Proofs.Phrases

/-!
# What is noted

While directions are found, a record is made of each listed edge of the node, of the side of the query if a road leads
through the node, and of the directions.

* **The side that is noted is that of the directions** (`SideNoted`, `RoadView.sideNoted_neighborhood`): a side is noted
  iff a road leads through the node, and the directions have a pairing for it that leads in on the noted edge and out on
  the other one.
* **Records are told apart** (`AreLegible`, `areLegible`): the record of an edge is one of no other edge, node,
  neighbour or use, and the record of a side is one of no other edge or side, whatever the heading.
* **The records tell what the directions tell** (`resolve_records`): a refused resolution leaves no record, and an
  answered one leaves those of the edges, of the side if there is one, and of the directions, and no others.
-/

namespace Roadside

variable {K : Type}

/-! ## The side that is noted -/

/-- What is noted of the side of a query, if anything is, agrees with the directions. -/
structure SideNoted [Scalar K] (allows : Openness) (rule : SideRule K) (listed : List (Incidence K))
    (position query : Point K) (d : Directions) (told : Option (Event K)) : Prop where
  isSome_iff : told.isSome = true ↔ IsThroughRoad allows listed
  pairing : ∀ event ∈ told, ∃ x y, (listed = [x, y] ∨ listed = [y, x]) ∧
    event = .sideSeen (position.headingTo x.anchor) x.edge query (rule.sideOf position query x) ∧
    d.pairing? (rule.sideOf position query x) = some ⟨x.edge, y.edge⟩

section Sides

variable [Scalar K]

/-- On the side that an edge tells, directions lead in on that edge and out on the other one. -/
theorem TellsSides.exists_passage {view : RoadView K} {allows : Openness} {node : NodeId} {r : Incidence K}
    (h : TellsSides allows (view.incidences node) r) (position : Point K) (rule : SideRule K) (query : Point K) :
    ∃ out, (view.incidences node = [r, out] ∨ view.incidences node = [out, r]) ∧
      ((view.neighborhood allows node position).directions rule query).pairing?
        ((view.neighborhood allows node position).sideFrom rule query (r.arm allows)) = some ⟨r.edge, out.edge⟩ := by
  obtain ⟨out, pair, oneWay | twoWay⟩ := h.exists_layout position
  · refine ⟨out, pair, ?_⟩
    rw [Neighborhood.directions, oneWay]
    exact Directions.pairing?_only ..
  · refine ⟨out, pair, ?_⟩
    rw [Neighborhood.directions, twoWay]
    exact Directions.pairing?_paired ..

/-- Behind its edges a node has one side noted at most, and its directions. -/
theorem RoadView.sideNoted_neighborhood (view : RoadView K) (allows : Openness) (node : NodeId) (position : Point K)
    (rule : SideRule K) (query : Point K) :
    ∃ told, (view.neighborhood allows node position).events rule query = told.toList ++
        [.resolved node query ((view.neighborhood allows node position).directions rule query)] ∧
      SideNoted allows rule (view.incidences node) position query
        ((view.neighborhood allows node position).directions rule query) told := by
  let n := view.neighborhood allows node position
  refine ⟨n.layout.reference?.map fun arm =>
    .sideSeen (n.position.headingTo arm.anchor) arm.edge query (n.sideFrom rule query arm), ?_, ?_, ?_⟩
  · rw [Neighborhood.events, Option.toList_map]
    rfl
  · rw [Option.isSome_map, isThroughRoad_iff, Option.isSome_iff_exists]
    constructor
    · rintro ⟨arm, reference⟩
      obtain ⟨r, tells, -⟩ := exists_tellsSides reference
      exact ⟨r, tells⟩
    · rintro ⟨r, tells⟩
      exact ⟨r.arm allows, tells.reference?_layout⟩
  · intro event noted
    obtain ⟨arm, reference, rfl⟩ := Option.map_eq_some_iff.1 noted
    obtain ⟨r, tells, rfl⟩ := exists_tellsSides reference
    obtain ⟨out, pair, passage⟩ := tells.exists_passage position rule query
    exact ⟨r, out, pair, rfl, passage⟩

end Sides

/-! ## Records -/

/-- A record of an event: how important it is, and what it says. -/
abbrev Record := Level × String

def Event.record (event : Event Float) : Record := (event.level, event.text)

/-- The records that a program makes when it is run from an empty journal. -/
def Journal.recordsOf {α : Type} (program : StateM (Journal Float) α) : List Record :=
  (program.run {}).2.events.map Event.record

theorem Journal.Enters.recordsOf_eq {α : Type} {program : StateM (Journal Float) α} {a : α} {entries : Journal Float}
    (h : Enters program a entries) : recordsOf program = entries.events.map Event.record := by
  rw [recordsOf, h {}, empty_append]

/-- The word for what an edge may be used for. -/
def usageName (arrives leaves : Bool) : String :=
  match arrives, leaves with
  | true, true => "Both"
  | true, false => "InOnly"
  | false, true => "OutOnly"
  | false, false => "None"

/-- The record of a listed edge: the node, the edge, the node it leads to, and what it may be used for. -/
def Incidence.record (node : NodeId) (allows : Openness) (i : Incidence Float) : Record :=
  (.trace, nodeName node ++ ": " ++ edgeName i.edge ++ " → " ++ nodeName i.far ++ " is " ++
    usageName (i.arrives allows) (i.leaves allows))

/-- The record of the side on which the traffic that arrives on an edge, against a heading, sees a query. -/
def sideRecord (heading : Heading Float) (edge : EdgeId) (query : Point Float) (side : Side) : Record :=
  (.trace, "heading " ++ headingName heading ++ " from " ++ edgeName edge ++ " puts " ++ placeName query ++
    " on the " ++ sideName side)

/-- The record of the directions at a node for a query. -/
def directionsRecord (node : NodeId) (query : Point Float) (d : Directions) : Record :=
  (.debug, nodeName node ++ " @ " ++ placeName query ++ ": " ++ d.text)

theorem record_armSeen (node : NodeId) (allows : Openness) (i : Incidence Float) :
    Event.record (.armSeen node (i.arm allows)) = i.record node allows := by
  have usage (arrives leaves : Bool) : (⟨arrives, leaves⟩ : Usage).text = usageName arrives leaves := by
    cases arrives <;> cases leaves <;> rfl
  rw [Incidence.record, ← usage]
  rfl

theorem record_sideSeen (heading : Heading Float) (edge : EdgeId) (query : Point Float) (side : Side) :
    Event.record (.sideSeen heading edge query side) = sideRecord heading edge query side := by
  cases side <;> rfl

/-! ### What a record is about -/

/-- What a record is about can be read off it. -/
structure AreLegible : Prop where
  edge : ∀ node node' allows allows' (i j : Incidence Float), i.record node allows = j.record node' allows' →
    node = node' ∧ i.edge = j.edge ∧ i.far = j.far ∧ i.arrives allows = j.arrives allows' ∧
      i.leaves allows = j.leaves allows'
  side : ∀ heading heading' edge edge' query side side',
    sideRecord heading edge query side = sideRecord heading' edge' query side' → edge = edge' ∧ side = side'
  directions : ∀ node node' query d d', directionsRecord node query d = directionsRecord node' query d' →
    node = node' ∧ d = d'

theorem areLegible : AreLegible where
  edge node node' allows allows' i j same := by
    have same := (Prod.mk.inj same).2
    simp only [String.append_assoc, nodeName_append_inj, edgeName_append_inj, String.append_right_inj] at same
    obtain ⟨rfl, edge, far, usage⟩ := same
    revert usage
    cases i.arrives allows <;> cases i.leaves allows <;> cases j.arrives allows' <;> cases j.leaves allows' <;>
      simp [usageName, edge, far]
  side heading heading' edge edge' query side side' same := by
    obtain ⟨text, rfl⟩ := append_sideName_inj.1 (Prod.mk.inj same).2
    simp only [String.append_left_inj] at text
    exact ⟨(append_edgeName_inj.1 text).2, rfl⟩
  directions node node' query d d' same := by
    have same := (Prod.mk.inj same).2
    simp only [String.append_assoc, nodeName_append_inj, String.append_right_inj] at same
    obtain ⟨rfl, text⟩ := same
    exact ⟨rfl, (Directions.text_append_inj.1 (congrArg (· ++ "") text)).1⟩

/-! ### The records of a resolution -/

/-- The records of a resolution. -/
structure RecordsTell (view : RoadView Float) (allows : Openness) (rule : SideRule Float) (node : NodeId)
    (query : Point Float) (answer : Except (Fault Float) Directions) (records : List Record) : Prop where
  refused : ∀ fault, answer = .error fault → records = []
  /-- First come the listed edges, each of them once, and last the directions. -/
  answered : ∀ d, answer = .ok d → ∃ told : Option Record,
    records = (view.incidences node).map (·.record node allows) ++ told.toList ++ [directionsRecord node query d] ∧
    (told.isSome = true ↔ d ≠ .impossible ∧ ∃ a b, view.incidences node = [a, b] ∧ a.far ≠ b.far ∧
      a.isUsable allows = true ∧ b.isUsable allows = true) ∧
    ∀ record ∈ told,
      (∃ position, view.position? node = some position ∧ ∃ x ∈ view.incidences node,
        record = sideRecord (position.headingTo x.anchor) x.edge query (rule.sideOf position query x)) ∧
      ∀ heading edge side, record = sideRecord heading edge query side → ∃ x y,
        (view.incidences node = [x, y] ∨ view.incidences node = [y, x]) ∧ edge = x.edge ∧
          d.pairing? side = some ⟨edge, y.edge⟩

/-- **The records tell what the directions tell**: for every map, openness, rule, node and query, a resolution leaves a
record of each listed edge, one of the side if a road leads through the node, and one of the directions, which have the
noted edge on the noted side. What each of them is about can be read off it. -/
theorem resolve_records (view : RoadView Float) (allows : Openness) (rule : SideRule Float) (node : NodeId)
    (query : Point Float) :
    let resolution := (Journal.host view allows).resolve rule node query
    RecordsTell view allows rule node query (Journal.answerOf resolution) (Journal.recordsOf resolution) ∧
      AreLegible := by
  intro resolution
  refine ⟨?_, areLegible⟩
  have entered := Journal.enters_resolve view allows rule node query
  rw [entered.answerOf_eq, entered.recordsOf_eq]
  constructor
  case refused =>
    intro fault refused
    rw [resolve_eq, survey_eq, Point.checked] at refused
    rw [RoadView.events]
    cases on : query.isOnGlobe with
    | false => rfl
    | true =>
      cases known : view.position? node with
      | none => simp [RoadView.surveyEvents, RoadView.directionEvents, known]
      | some position => simp [on, known, Except.bind, Except.map] at refused
  case answered =>
    intro d answered
    obtain ⟨on, position, known, rfl⟩ := resolve_eq_ok_iff.1 answered
    obtain ⟨told, events, noted⟩ := view.sideNoted_neighborhood allows node position rule query
    have resolves : Resolves allows (rule.sideOf position query) (view.incidences node)
        ((view.neighborhood allows node position).directions rule query) := resolves_directions rule query
    refine ⟨told.map Event.record, ?_, ?_, ?_⟩
    · have edges : (Event.record ∘ fun i : Incidence Float => .armSeen node (i.arm allows)) = (·.record node allows) :=
        funext (record_armSeen node allows)
      rw [RoadView.events, RoadView.surveyEvents, RoadView.directionEvents, if_pos on, known]
      simp only [events, List.map_append, List.map_map, Option.toList_map, List.append_assoc, edges]
      rfl
    · rw [Option.isSome_map, noted.isSome_iff, Ne, resolves.impossible_iff, not_not, IsThroughRoad]
      constructor
      · rintro ⟨a, b, pair, apart, first, second, flows⟩
        exact ⟨flows, a, b, pair, apart, first, second⟩
      · rintro ⟨flows, a, b, pair, apart, first, second⟩
        exact ⟨a, b, pair, apart, first, second, flows⟩
    · intro record recorded
      obtain ⟨event, here, rfl⟩ := Option.map_eq_some_iff.1 recorded
      obtain ⟨x, y, pair, rfl, passage⟩ := noted.pairing event here
      rw [record_sideSeen]
      refine ⟨⟨position, known, x, (mem_of_pair pair).1, rfl⟩, fun heading edge side same => ?_⟩
      obtain ⟨rfl, rfl⟩ := areLegible.side _ _ _ _ _ _ _ same
      exact ⟨x, y, pair, rfl, passage⟩

end Roadside
