import Mathlib.Data.List.Basic
import Roadside.Proofs.Layout

/-!
# What is asked

A road map is asked in a fixed order: where the node lies, which edges are listed there, and of each listed edge whether
one may arrive on it and whether one may leave on it. What a map is asked is read off the journal that it keeps.

* **Programs enter behind what is there** (`Journal.Enters`): a sequence of programs enters what they enter one after
  the other (`Enters.bind`, `Enters.mapM`, `Enters.forM`), so what a survey and a resolution enter is put together from
  single questions and events (`enters_inspect`, `enters_survey`, `enters_resolve`).
* **Resolutions ask what they have to** (`resolve_asksInOrder`): nothing if the query is off the globe, one question if
  the node is unknown, and otherwise two questions and two for each listed edge, whatever the answers are.
-/

namespace Roadside

variable {K : Type}

namespace Journal

/-! ## Journals one behind the other -/

instance : Append (Journal K) := ⟨fun j k => ⟨j.inquiries ++ k.inquiries, j.events ++ k.events⟩⟩

theorem append_def (j k : Journal K) : j ++ k = ⟨j.inquiries ++ k.inquiries, j.events ++ k.events⟩ := rfl

@[simp] theorem append_empty (j : Journal K) : j ++ {} = j := by
  simp [append_def]

@[simp] theorem empty_append (j : Journal K) : {} ++ j = j := rfl

theorem append_assoc (j k l : Journal K) : j ++ k ++ l = j ++ (k ++ l) := by
  simp [append_def]

/-- Many journals, one behind the other. -/
def join (journals : List (Journal K)) : Journal K := ⟨journals.flatMap (·.inquiries), journals.flatMap (·.events)⟩

@[simp] theorem join_nil : join ([] : List (Journal K)) = {} := rfl

@[simp] theorem join_cons (j : Journal K) (journals : List (Journal K)) :
    join (j :: journals) = j ++ join journals := rfl

/-! ## What programs enter -/

/-- Whatever is in the journal, the program has this answer, and it enters this behind what is there. -/
def Enters {α : Type} (program : StateM (Journal K) α) (answer : α) (entries : Journal K) : Prop :=
  ∀ journal : Journal K, program.run journal = (answer, journal ++ entries)

namespace Enters

variable {α β : Type}

theorem pure (a : α) : Enters (Pure.pure a : StateM (Journal K) α) a {} := by
  intro journal
  rw [append_empty]
  rfl

/-- One program after the other enters what both of them enter. -/
theorem bind {program : StateM (Journal K) α} {f : α → StateM (Journal K) β} {a : α} {b : β} {j k : Journal K}
    (h : Enters program a j) (h' : Enters (f a) b k) : Enters (program >>= f) b (j ++ k) := by
  intro journal
  have first : program journal = (a, journal ++ j) := h journal
  have second : f a (journal ++ j) = (b, journal ++ j ++ k) := h' _
  show f (program journal).1 (program journal).2 = (b, journal ++ (j ++ k))
  rw [first, second, append_assoc]

/-- A program for each of many things, one after the other. -/
theorem mapM {program : α → StateM (Journal K) β} {answer : α → β} {entries : α → Journal K}
    (h : ∀ a, Enters (program a) (answer a) (entries a)) (l : List α) :
    Enters (l.mapM program) (l.map answer) (join (l.map entries)) := by
  induction l with
  | nil => exact pure []
  | cons a l ih =>
    have rest : Enters (l.mapM program >>= fun bs => Pure.pure (answer a :: bs)) (answer a :: l.map answer)
        (join (l.map entries) ++ {}) := ih.bind (pure _)
    rw [append_empty] at rest
    rw [List.mapM_cons, List.map_cons, List.map_cons, join_cons]
    exact (h a).bind rest

theorem forM {program : α → StateM (Journal K) Unit} {entries : α → Journal K}
    (h : ∀ a, Enters (program a) () (entries a)) (l : List α) : Enters (l.forM program) () (join (l.map entries)) := by
  induction l with
  | nil => exact pure ()
  | cons a l ih =>
    rw [List.map_cons, join_cons]
    exact (h a).bind ih

end Enters

theorem enters_asked {α : Type} (inquiry : Inquiry) (answer : α) :
    Enters (asked inquiry answer) answer (⟨[inquiry], []⟩ : Journal K) := by
  intro journal
  rw [append_def, List.append_nil]
  rfl

end Journal

/-! ## What a resolution asks and notes -/

/-- The questions about a listed edge: whether it is open toward the node, and whether it is open away from there. -/
def Incidence.inquiries (i : Incidence K) : List Inquiry := [.allows i.edge i.inward, .allows i.edge i.outward]

namespace RoadView

/-- What a survey asks: for the node, and if there is one, for its edges. -/
def surveyInquiries (view : RoadView K) (node : NodeId) : List Inquiry :=
  match view.position? node with
  | none => [.position node]
  | some _ => [.position node, .incidences node] ++ (view.incidences node).flatMap Incidence.inquiries

/-- What a survey notes: every edge of the node, with what it may be used for. -/
def surveyEvents (view : RoadView K) (allows : Openness) (node : NodeId) : List (Event K) :=
  match view.position? node with
  | none => []
  | some _ => (view.incidences node).map fun i => .armSeen node (i.arm allows)

variable [Scalar K]

/-- What a resolution asks: nothing for a query off the globe, and otherwise what the survey of the node asks. -/
def inquiries (view : RoadView K) (node : NodeId) (query : Point K) : List Inquiry :=
  if query.isOnGlobe then view.surveyInquiries node else []

/-- What a resolution notes once it has surveyed the node. -/
def directionEvents (view : RoadView K) (allows : Openness) (rule : SideRule K) (node : NodeId) (query : Point K) :
    List (Event K) :=
  match view.position? node with
  | none => []
  | some position => (view.neighborhood allows node position).events rule query

/-- What a resolution notes. -/
def events (view : RoadView K) (allows : Openness) (rule : SideRule K) (node : NodeId) (query : Point K) :
    List (Event K) :=
  if query.isOnGlobe then view.surveyEvents allows node ++ view.directionEvents allows rule node query else []

end RoadView

namespace Journal

section Host

variable (view : RoadView K) (allows : Openness)

theorem enters_note (event : Event K) : Enters ((host view allows).note event) () ⟨[], [event]⟩ := by
  intro journal
  rw [append_def, List.append_nil]
  rfl

/-- A listed edge is asked about twice, whatever the first answer is. -/
theorem enters_inspect (node : NodeId) (i : Incidence K) : Enters ((host view allows).inspect node i) (i.arm allows)
    ⟨i.inquiries, [.armSeen node (i.arm allows)]⟩ := by
  have arrive := enters_asked (K := K) (.allows i.edge i.inward) (allows i.edge i.inward)
  have leave := enters_asked (K := K) (.allows i.edge i.outward) (allows i.edge i.outward)
  have note := enters_note view allows (.armSeen node (i.arm allows))
  have all : Enters ((host view allows).inspect node i) (i.arm allows) (⟨[.allows i.edge i.inward], []⟩ ++
      (⟨[.allows i.edge i.outward], []⟩ ++ (⟨[], [.armSeen node (i.arm allows)]⟩ ++ {}))) := by
    unfold Host.inspect
    exact arrive.bind (leave.bind (note.bind (.pure _)))
  exact all

theorem enters_inspect_all (node : NodeId) (listed : List (Incidence K)) :
    Enters (listed.mapM ((host view allows).inspect node)) (listed.map (·.arm allows))
      ⟨listed.flatMap Incidence.inquiries, listed.map fun i => .armSeen node (i.arm allows)⟩ := by
  have all := Enters.mapM (enters_inspect view allows node) listed
  have entries : join (listed.map fun i => (⟨i.inquiries, [.armSeen node (i.arm allows)]⟩ : Journal K)) =
      ⟨listed.flatMap Incidence.inquiries, listed.map fun i => .armSeen node (i.arm allows)⟩ := by
    rw [join, List.flatMap_map, List.flatMap_map, ← List.map_eq_flatMap]
  rwa [entries] at all

theorem enters_survey (node : NodeId) : Enters ((host view allows).survey node) (survey view allows node)
    ⟨view.surveyInquiries node, view.surveyEvents allows node⟩ := by
  have place := enters_asked (K := K) (.position node) (view.position? node)
  rw [survey_eq, RoadView.surveyInquiries, RoadView.surveyEvents]
  cases known : view.position? node with
  | none =>
    rw [known] at place
    have all : Enters ((host view allows).survey node) (.error (.unknownNode node)) (⟨[.position node], []⟩ ++ {}) := by
      unfold Host.survey
      refine Enters.bind (a := none) ?_ (.pure _)
      exact known ▸ place
    exact all
  | some position =>
    rw [known] at place
    have edges := enters_asked (K := K) (.incidences node) (view.incidences node)
    have arms := enters_inspect_all view allows node (view.incidences node)
    have all : Enters ((host view allows).survey node)
        (.ok ⟨node, position, (view.incidences node).map (·.arm allows)⟩)
        (⟨[.position node], []⟩ ++ (⟨[.incidences node], []⟩ ++
          (⟨(view.incidences node).flatMap Incidence.inquiries,
            (view.incidences node).map fun i => .armSeen node (i.arm allows)⟩ ++ {}))) := by
      unfold Host.survey
      refine Enters.bind (a := some position) ?_ (edges.bind (arms.bind (.pure _)))
      exact known ▸ place
    simpa [append_def] using all

theorem enters_notes (events : List (Event K)) : Enters (events.forM (host view allows).note) () ⟨[], events⟩ := by
  have all := Enters.forM (enters_note view allows) events
  have entries : join (events.map fun event => (⟨[], [event]⟩ : Journal K)) = ⟨[], events⟩ := by
    rw [join, List.flatMap_map, List.flatMap_map, List.flatMap_singleton', List.flatMap_eq_nil_iff.2 fun _ _ => rfl]
  rwa [entries] at all

variable [Scalar K]

/-- A resolution has the plain answer, and it asks and notes what its query and its node call for. -/
theorem enters_resolve (rule : SideRule K) (node : NodeId) (query : Point K) :
    Enters ((host view allows).resolve rule node query) (resolve view allows rule node query)
      ⟨view.inquiries node query, view.events allows rule node query⟩ := by
  rw [resolve_eq, RoadView.inquiries, RoadView.events]
  unfold Host.resolve Point.checked
  cases on : query.isOnGlobe with
  | false => exact .pure _
  | true =>
    -- The survey enters all the questions; what is noted behind it depends on whether it found the node.
    have surveyed := enters_survey view allows node
    have entries : (⟨view.surveyInquiries node, view.surveyEvents allows node⟩ ++
          ⟨[], view.directionEvents allows rule node query⟩ : Journal K) =
        ⟨view.surveyInquiries node, view.surveyEvents allows node ++ view.directionEvents allows rule node query⟩ := by
      rw [append_def, List.append_nil]
    rw [if_pos rfl, if_pos rfl, if_pos rfl, ← entries]
    rw [survey_eq, RoadView.directionEvents] at *
    cases known : view.position? node with
    | none =>
      rw [known] at surveyed
      exact surveyed.bind (.pure _)
    | some position =>
      rw [known] at surveyed
      have notes := enters_notes view allows ((view.neighborhood allows node position).events rule query)
      let answer : Except (Fault K) Directions := .ok ((view.neighborhood allows node position).directions rule query)
      have last := notes.bind (f := fun _ => Pure.pure answer) (.pure answer)
      rw [append_empty] at last
      exact surveyed.bind last

/-- Many resolutions enter what they enter one after the other, also where some of them are refused. -/
theorem enters_resolveAll (rule : SideRule K) (queries : List (NodeId × Point K)) :
    Enters ((host view allows).resolveAll rule queries)
      (queries.map fun (node, query) => resolve view allows rule node query)
      ⟨queries.flatMap fun (node, query) => view.inquiries node query,
        queries.flatMap fun (node, query) => view.events allows rule node query⟩ := by
  have all := Enters.mapM (fun q : NodeId × Point K => enters_resolve view allows rule q.1 q.2) queries
  rw [join, List.flatMap_map, List.flatMap_map] at all
  exact all

end Host

/-! ## Programs that are run from an empty journal -/

variable {α : Type}

/-- The answer of a program when nothing has been asked before. -/
def answerOf (program : StateM (Journal K) α) : α := (program.run {}).1

/-- What a program asks, in order. -/
def inquiriesOf (program : StateM (Journal K) α) : List Inquiry := (program.run {}).2.inquiries

theorem Enters.answerOf_eq {program : StateM (Journal K) α} {a : α} {entries : Journal K}
    (h : Enters program a entries) : answerOf program = a := by
  rw [answerOf, h {}]

theorem Enters.inquiriesOf_eq {program : StateM (Journal K) α} {a : α} {entries : Journal K}
    (h : Enters program a entries) : inquiriesOf program = entries.inquiries := by
  rw [inquiriesOf, h {}, empty_append]

end Journal

/-! ## The order of the questions -/

/-- What may come out of a resolution, and what has to have been asked for it. -/
structure KeepsOrder [Scalar K] (view : RoadView K) (node : NodeId) (query : Point K)
    (answer : Except (Fault K) Directions) (inquiries : List Inquiry) : Prop where
  /-- A query off the globe is refused, whether or not the node exists. -/
  offGlobe : query.isOnGlobe = false → answer = .error (.offGlobe query) ∧ inquiries = []
  unknownNode : query.isOnGlobe = true → view.position? node = none →
    answer = .error (.unknownNode node) ∧ inquiries = [.position node]
  /-- At a known node each listed edge is asked about twice, first toward the node and then away from there. -/
  knownNode : query.isOnGlobe = true → (view.position? node).isSome = true →
    (∃ d, answer = .ok d) ∧ inquiries = [.position node, .incidences node] ++
      (view.incidences node).flatMap fun i => [.allows i.edge i.outward.reverse, .allows i.edge i.outward]

/-- The inquiries of one resolution and of many. -/
structure AsksInOrder [Scalar K] (view : RoadView K) : Prop where
  one : ∀ (allows : Openness) (rule : SideRule K) (node : NodeId) (query : Point K),
    let resolution := (Journal.host view allows).resolve rule node query
    Journal.answerOf resolution = resolve view allows rule node query ∧
      KeepsOrder view node query (Journal.answerOf resolution) (Journal.inquiriesOf resolution)
  /-- The answers about openness, the rule and the query do not count, as long as the query is on the globe. -/
  steady : ∀ (allows allows' : Openness) (rule rule' : SideRule K) (node : NodeId) (query query' : Point K),
    query.isOnGlobe = query'.isOnGlobe → Journal.inquiriesOf ((Journal.host view allows).resolve rule node query) =
      Journal.inquiriesOf ((Journal.host view allows').resolve rule' node query')
  /-- Each query has the answer that it has alone, and what is asked for it alone is asked in its turn. -/
  many : ∀ (allows : Openness) (rule : SideRule K) (queries : List (NodeId × Point K)),
    let alone := fun (q : NodeId × Point K) => (Journal.host view allows).resolve rule q.1 q.2
    let together := (Journal.host view allows).resolveAll rule queries
    Journal.answerOf together = queries.map (fun q => Journal.answerOf (alone q)) ∧
      Journal.inquiriesOf together = queries.flatMap fun q => Journal.inquiriesOf (alone q)

variable [Scalar K]

theorem resolve_keepsOrder (view : RoadView K) (allows : Openness) (rule : SideRule K) (node : NodeId)
    (query : Point K) : KeepsOrder view node query (resolve view allows rule node query) (view.inquiries node query) := by
  rw [resolve_eq, survey_eq, Point.checked, RoadView.inquiries, RoadView.surveyInquiries]
  constructor
  case offGlobe =>
    intro off
    simp [off, Except.bind]
  case unknownNode =>
    intro on unknown
    simp [on, unknown, Except.bind, Except.map]
  case knownNode =>
    intro on known
    obtain ⟨position, found⟩ := Option.isSome_iff_exists.1 known
    rw [if_pos on, if_pos on, found]
    exact ⟨⟨(view.neighborhood allows node position).directions rule query, rfl⟩, rfl⟩

/-- **A map is asked in a fixed order**: for every openness, rule, node and query a resolution keeps to the order, only
the node and whether the query is on the globe decide what is asked, and many resolutions ask one after the other. -/
theorem resolve_asksInOrder (view : RoadView K) : AsksInOrder view := by
  constructor
  case one =>
    intro allows rule node query resolution
    have entered := Journal.enters_resolve view allows rule node query
    rw [entered.answerOf_eq, entered.inquiriesOf_eq]
    exact ⟨rfl, resolve_keepsOrder view allows rule node query⟩
  case steady =>
    intro allows allows' rule rule' node query query' same
    have entered := Journal.enters_resolve view allows rule node query
    have entered' := Journal.enters_resolve view allows' rule' node query'
    rw [entered.inquiriesOf_eq, entered'.inquiriesOf_eq]
    show view.inquiries node query = view.inquiries node query'
    rw [RoadView.inquiries, RoadView.inquiries, same]
  case many =>
    intro allows rule queries alone together
    have entered := Journal.enters_resolveAll view allows rule queries
    have each := fun q : NodeId × Point K => Journal.enters_resolve view allows rule q.1 q.2
    rw [entered.answerOf_eq, entered.inquiriesOf_eq]
    constructor
    · exact List.map_congr_left fun q _ => (each q).answerOf_eq.symm
    · exact List.flatMap_congr fun q _ => (each q).inquiriesOf_eq.symm

/-- A refused query and an unknown node stand before a query at a node with one edge. -/
example :
    let view : RoadView Rat := ⟨fun n => if n = ⟨0⟩ then some ⟨0, 0⟩ else none, fun _ => [⟨⟨5⟩, ⟨1⟩, .backward, ⟨1, 0⟩⟩]⟩
    Journal.inquiriesOf ((Journal.host view fun _ _ => true).resolveAll .standard
      [(⟨0⟩, ⟨91, 0⟩), (⟨7⟩, ⟨0, 0⟩), (⟨0⟩, ⟨0, 0⟩)]) =
    [.position ⟨7⟩, .position ⟨0⟩, .incidences ⟨0⟩, .allows ⟨5⟩ .forward, .allows ⟨5⟩ .backward] := by decide +kernel

end Roadside
