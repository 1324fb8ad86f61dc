import Roadside.Proofs.Growth
import Roadside.Proofs.Search

/-!
# What happens elsewhere

What a map answers at a node depends on where the node lies and on the edges that are listed there. Nodes and edges that
are added later do not change that, although they move the rows of slots and of bends to other places, as long as none
of the edges ends at the node. Nor does the access that edges elsewhere are given.

* **A draft that grows elsewhere lists the same** at the node (`GrownElsewhere.slotsAt`, `GrownElsewhere.incidences`).
* **What happens elsewhere does not matter** (`agreeAt_of_elsewhere`): neither a script that goes on elsewhere nor new
  access elsewhere changes what is listed at the node, its survey, or the directions there.
-/

namespace Roadside

variable {K : Type}

/-! ## Answers at a node -/

/-- The second map answers at a node what the first one does. -/
structure AgreeAt [Scalar K] (node : NodeId) (map map' : RoadMap K) : Prop where
  incidences : map'.incidences node = map.incidences node
  degree : map'.degree node = map.degree node
  survey : survey map'.view map'.allows node = survey map.view map.allows node
  resolve : ∀ (rule : SideRule K) (query : Point K),
    resolve map'.view map'.allows rule node query = resolve map.view map.allows rule node query
  /-- Under access that does not come from the maps the answers are the same as well. -/
  surveyUnder : ∀ allows : Openness, Roadside.survey map'.view allows node = Roadside.survey map.view allows node
  resolveUnder : ∀ (allows : Openness) (rule : SideRule K) (query : Point K),
    Roadside.resolve map'.view allows rule node query = Roadside.resolve map.view allows rule node query

section Answers

variable {view view' : RoadView K} {allows allows' : Openness} {node : NodeId}

/-- A survey asks where the node lies, what is listed there, and which of the listed edges are open. -/
theorem survey_congr (position : view'.position? node = view.position? node)
    (incidences : view'.incidences node = view.incidences node)
    (same : ∀ i ∈ view.incidences node, allows' i.edge = allows i.edge) :
    survey view' allows' node = survey view allows node := by
  have arms : (view.incidences node).map (·.arm allows') = (view.incidences node).map (·.arm allows) := by
    refine List.map_congr_left fun i hi => ?_
    rw [Incidence.arm, Incidence.arm, same i hi]
  rw [survey_eq, survey_eq, position, incidences, arms]

theorem resolve_congr [Scalar K] (h : survey view' allows' node = survey view allows node) (rule : SideRule K)
    (query : Point K) : resolve view' allows' rule node query = resolve view allows rule node query := by
  simp only [resolve_eq, h]

/-- Maps answer alike at a node if it has the same place, slots, listed edges and access to these. -/
theorem agreeAt_of_incidences [Scalar K] {map map' : RoadMap K} (position : map'.position? node = map.position? node)
    (slots : map'.slotsAt node = map.slotsAt node) (incidences : map'.incidences node = map.incidences node)
    (same : ∀ i ∈ map.incidences node, map'.allows i.edge = map.allows i.edge) : AgreeAt node map map' := by
  have own : survey map'.view map'.allows node = survey map.view map.allows node :=
    survey_congr position incidences same
  have under (allows : Openness) : survey map'.view allows node = survey map.view allows node :=
    survey_congr position incidences fun _ _ => rfl
  constructor
  case incidences => exact incidences
  case degree => rw [RoadMap.degree, RoadMap.degree, slots]
  case survey => exact own
  case resolve => exact resolve_congr own
  case surveyUnder => exact under
  case resolveUnder =>
    intro allows
    exact resolve_congr (under allows)

end Answers

/-! ## Drafts that grow -/

/-- The edge has an end at the node. -/
def Ends.Touches (e : Ends) (node : NodeId) : Prop := e.start = node ∨ e.finish = node

instance (e : Ends) (node : NodeId) : Decidable (e.Touches node) := inferInstanceAs (Decidable (_ ∨ _))

theorem Segment.outwards_of_not_touches {s : Segment K} {node : NodeId} (h : ¬s.ends.Touches node) :
    s.outwards node = [] := by
  rw [Ends.Touches, not_or] at h
  rw [outwards, if_neg h.1, if_neg h.2, List.append_nil]

/-- If the entries in front yield the same, and those behind yield nothing, then all together yield the same. -/
theorem flatMap_zipIdx_append {α β : Type} {l more : List α} {f f' : α × Nat → List β}
    (front : ∀ x ∈ l, ∀ i, f' (x, i) = f (x, i)) (behind : ∀ x ∈ more, ∀ i, f' (x, i) = []) :
    (l ++ more).zipIdx.flatMap f' = l.zipIdx.flatMap f := by
  have nothing : (more.zipIdx l.length).flatMap f' = [] := by
    rw [List.flatMap_eq_nil_iff]
    rintro ⟨x, i⟩ mem
    exact behind x (List.fst_mem_of_mem_zipIdx mem) i
  rw [List.zipIdx_append, List.flatMap_append, Nat.zero_add, nothing, List.append_nil]
  refine List.flatMap_congr fun entry mem => ?_
  obtain ⟨x, i⟩ := entry
  exact front x (List.fst_mem_of_mem_zipIdx mem) i

namespace Draft

/-- The second draft has what the first one has, and behind it further nodes and segments that do not touch the node. -/
structure GrownElsewhere (node : NodeId) (d d' : Draft K) (more : List (Segment K)) : Prop where
  positions : d.positions.toList <+: d'.positions.toList
  segments : d'.segments.toList = d.segments.toList ++ more
  elsewhere : ∀ s ∈ more, ¬s.ends.Touches node

theorem grownElsewhere_run (d : Draft K) {script : List (Step K)} {node : NodeId}
    (elsewhere : ∀ s ∈ d.added script, ¬s.ends.Touches node) :
    GrownElsewhere node d (d.run script).2 (d.added script) :=
  ⟨d.positions_run script, d.segments_run script, elsewhere⟩

namespace GrownElsewhere

variable {node : NodeId} {d d' : Draft K} {more : List (Segment K)} (h : GrownElsewhere node d d' more)
include h

/-- Nodes stay where they are. -/
theorem position?_eq {other : NodeId} (known : other.index < d.positions.size) :
    d'.position? other = d.position? other := by
  obtain ⟨rest, positions⟩ := h.positions
  have inside : other.index < d.positions.toList.length := known
  rw [position?, position?, ← Array.getElem?_toList, ← positions, List.getElem?_append_left inside,
    Array.getElem?_toList]

/-- Both ends of a segment are nodes that the draft has, so what is listed of it stays the same. -/
theorem incidence?_eq {s : Segment K} (hs : s ∈ d.segments) (i : Nat) : d'.incidence? s i = d.incidence? s i := by
  funext t
  obtain ⟨start, finish⟩ := d.ends_lt s hs
  have target : d'.position? (s.ends.target t) = d.position? (s.ends.target t) := by
    cases t
    · exact h.position?_eq finish
    · exact h.position?_eq start
  rw [incidence?, incidence?, anchor?, anchor?, target]

theorem slotsAt : d'.build.slotsAt node = d.build.slotsAt node := by
  have ends (d : Draft K) : d.build.ends.toList = d.segments.toList.map (·.ends) := Array.toList_map
  rw [slotsAt_eq, slotsAt_eq, RoadMap.slotsByEdge, RoadMap.slotsByEdge, ends, ends, h.segments, List.zipIdx_map,
    List.zipIdx_map, List.flatMap_map, List.flatMap_map]
  refine flatMap_zipIdx_append (fun s _ i => rfl) fun s hs i => ?_
  simp only [Prod.map_fst, Prod.map_snd, id_eq, Segment.slotsAt_eq,
    Segment.outwards_of_not_touches (h.elsewhere s hs), List.map_nil]

section Numbered

variable (fits : d'.segments.size ≤ UInt32.size)
include fits

theorem size_le : d.segments.size ≤ UInt32.size := by
  have length := congrArg List.length h.segments
  rw [List.length_append, Array.length_toList, Array.length_toList] at length
  omega

theorem incidences : d'.build.incidences node = d.build.incidences node := by
  rw [incidences_build fits, incidences_build (h.size_le fits), h.segments]
  refine flatMap_zipIdx_append (fun s hs i => ?_) fun s hs i => ?_
  · simp only [h.incidence?_eq (Array.mem_toList_iff.1 hs)]
  · simp only [Segment.outwards_of_not_touches (h.elsewhere s hs), List.filterMap_nil]

/-- The listed edges have the access that they had. -/
theorem allows {i : Incidence K} (listed : i ∈ d.build.incidences node) :
    d'.build.allows i.edge = d.build.allows i.edge := by
  obtain ⟨k, s, here, edge, -⟩ := exists_segment (h.size_le fits) listed
  have index : i.edge.index = k := by rw [edge, index_of_getElem? (h.size_le fits) here]
  have there : d'.segments[k]? = some s := getElem?_segments h.segments here
  rw [← index] at here there
  funext t
  rw [allows_build there, allows_build here]

theorem agreeAt [Scalar K] (known : node.index < d.positions.size) : AgreeAt node d.build d'.build :=
  agreeAt_of_incidences (h.position?_eq known) h.slotsAt (h.incidences fits) fun _ listed => h.allows fits listed

end Numbered

end GrownElsewhere

end Draft

/-! ## Access elsewhere -/

namespace RoadMap

/-- The edge is listed at the node. -/
def IsListed (map : RoadMap K) (node : NodeId) (edge : EdgeId) : Prop := ∃ i ∈ map.incidences node, i.edge = edge

instance (map : RoadMap K) (node : NodeId) (edge : EdgeId) : Decidable (map.IsListed node edge) :=
  inferInstanceAs (Decidable (∃ i ∈ map.incidences node, i.edge = edge))

variable {map map' : RoadMap K} {edge : EdgeId}

theorem allows_of_setAccess? {changed : EdgeId} {access : Access} (h : map.setAccess? changed access = some map')
    (other : changed ≠ edge) : map'.allows edge = map.allows edge := by
  unfold setAccess? at h
  split at h
  case isTrue inside =>
    obtain rfl := Option.some.inj h
    have apart : changed.index ≠ edge.index := mt Ident.index_inj.1 other
    funext t
    simp only [allows, Array.getElem?_set inside, if_neg apart]
  case isFalse => cases h

/-- Edges that are not changed keep their access. -/
theorem allows_of_setAll? {changes : List (EdgeId × Access)} (h : map.setAll? changes = some map')
    (others : ∀ change ∈ changes, change.1 ≠ edge) : map'.allows edge = map.allows edge := by
  induction changes generalizing map with
  | nil =>
    obtain rfl : map = map' := Option.some.inj h
    rfl
  | cons change changes ih =>
    rw [setAll?, List.foldlM_cons, Option.bind_eq_bind, Option.bind_eq_some_iff] at h
    obtain ⟨next, first, rest⟩ := h
    rw [List.forall_mem_cons] at others
    rw [ih rest others.2, allows_of_setAccess? first others.1]

theorem agreeAt_of_setAll? [Scalar K] {node : NodeId} {changes : List (EdgeId × Access)}
    (h : map.setAll? changes = some map') (elsewhere : ∀ change ∈ changes, ¬map.IsListed node change.1) :
    AgreeAt node map map' := by
  have same : ∀ i ∈ map.incidences node, map'.allows i.edge = map.allows i.edge := by
    intro i hi
    refine allows_of_setAll? h fun change mem here => ?_
    exact elsewhere change mem ⟨i, hi, here.symm⟩
  obtain ⟨access, rfl⟩ := exists_of_setAll? h
  exact agreeAt_of_incidences rfl rfl rfl same

end RoadMap

/-! ## All together -/

/-- **What happens elsewhere does not matter**: a map answers at a node what it does however its script goes on, as long
as no edge that is added ends there, and whatever access edges are given, as long as they are not listed there. -/
theorem agreeAt_of_elsewhere [Scalar K] (node : NodeId) :
    (∀ script more : List (Step K), node.index < (mapOf script).nodeCount → (mapOf (script ++ more)).Fits →
      (∀ s ∈ (Draft.empty.run script).2.added more, ¬s.ends.Touches node) →
      AgreeAt node (mapOf script) (mapOf (script ++ more))) ∧
    ∀ (map map' : RoadMap K) (changes : List (EdgeId × Access)), map.setAll? changes = some map' →
      (∀ change ∈ changes, ¬map.IsListed node change.1) → AgreeAt node map map' := by
  constructor
  · intro script more known fits elsewhere
    rw [mapOf_append] at fits ⊢
    exact (Draft.grownElsewhere_run _ elsewhere).agreeAt (Draft.size_segments_le fits) known
  · intro map map' changes made elsewhere
    exact RoadMap.agreeAt_of_setAll? made elsewhere

/-- A bent lane from the first street around the corner to a new place; an edge to a place that is missing is refused. -/
def suburb : List (Step Rat) :=
  [.node ⟨2, 2⟩, .segment (.straight ⟨1⟩ ⟨9⟩ .both), .segment ⟨⟨⟨0⟩, ⟨3⟩⟩, .forwardOnly, [⟨1, 0⟩, ⟨2, 1⟩]⟩]

/-- The corner does not notice the lane, nor that it is shut. -/
theorem agreeAt_of_elsewhere_suburb :
    let map := mapOf (shutCorner ++ suburb)
    let map' : RoadMap Rat := { map with access := #[.both, .closed, .closed] }
    (⟨1⟩ : NodeId).index < (mapOf shutCorner).nodeCount ∧ map.Fits ∧
      (∀ s ∈ (Draft.empty.run shutCorner).2.added suburb, ¬s.ends.Touches ⟨1⟩) ∧
      AgreeAt ⟨1⟩ (mapOf shutCorner) map ∧ map.setAll? [(⟨2⟩, .both), (⟨2⟩, .closed)] = some map' ∧
      (∀ change ∈ [((⟨2⟩ : EdgeId), Access.both), (⟨2⟩, .closed)], ¬map.IsListed ⟨1⟩ change.1) ∧
      AgreeAt ⟨1⟩ map map' := by
  intro map map'
  have known : (⟨1⟩ : NodeId).index < (mapOf shutCorner).nodeCount := by decide +kernel
  have fits : map.Fits := by decide +kernel
  have elsewhere : ∀ s ∈ (Draft.empty.run shutCorner).2.added suburb, ¬s.ends.Touches ⟨1⟩ := by decide +kernel
  have made : map.setAll? [(⟨2⟩, .both), (⟨2⟩, .closed)] = some map' := by decide +kernel
  have unlisted : ∀ change ∈ [((⟨2⟩ : EdgeId), Access.both), (⟨2⟩, .closed)], ¬map.IsListed ⟨1⟩ change.1 := by
    decide +kernel
  obtain ⟨grown, changed⟩ := agreeAt_of_elsewhere (K := Rat) ⟨1⟩
  exact ⟨known, fits, elsewhere, grown shutCorner suburb known fits elsewhere, made, unlisted,
    changed map map' _ made unlisted⟩

end Roadside
