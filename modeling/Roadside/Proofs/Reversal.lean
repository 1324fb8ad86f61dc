import Roadside.Proofs.Arms
import Roadside.Proofs.ListingOrder

/-!
# The way an edge is stored does not matter

A segment turned around is stored from its other end: its ends change places, its bends are listed the other way round,
and it is open backward where it was open forward. Nothing that the map answers about travelling depends on that.

* **Turning a segment around** anywhere in a script (`sameRoads_mapOf_reverse`) keeps the answer to every search for an
  edge and to every query for directions, and it keeps what is listed at every node; only the two entries of an edge
  that leads from a node back to it change places there.
-/

namespace Roadside

variable {K : Type}

/-! ## Turning around -/

def Ends.reverse (e : Ends) : Ends := ⟨e.finish, e.start⟩

def Access.reverse (a : Access) : Access := ⟨a.backward, a.forward⟩

/-- The same stretch of road, stored from its other end. -/
def Segment.reverse (s : Segment K) : Segment K := ⟨s.ends.reverse, s.access.reverse, s.bends.reverse⟩

@[simp] theorem Ends.target_reverse (e : Ends) (t : Travel) : e.reverse.target t = e.target t.reverse := by
  cases t <;> rfl

@[simp] theorem Access.allows_reverse (a : Access) (t : Travel) : a.reverse.allows t = a.allows t.reverse := by
  cases t <;> rfl

@[simp] theorem Segment.bend?_reverse (s : Segment K) (t : Travel) : s.reverse.bend? t = s.bend? t.reverse := by
  cases t <;> simp [bend?, reverse, Travel.reverse]

/-- A segment turned around leads away from its ends in the same places, but it is met the other way round. -/
theorem Segment.outwards_reverse (s : Segment K) (node : NodeId) :
    s.reverse.outwards node = ((s.outwards node).map Travel.reverse).reverse := by
  by_cases hs : s.ends.start = node <;> by_cases hf : s.ends.finish = node <;>
    simp [outwards, reverse, Ends.reverse, Travel.reverse, hs, hf]

/-- The edge leads from the node back to it. -/
def Ends.isLoopAt (e : Ends) (node : NodeId) : Bool := e.start = node && e.finish = node

/-- A segment that does not lead back has one end at a node at most. -/
theorem Segment.length_outwards_le {s : Segment K} {node : NodeId} (h : s.ends.isLoopAt node = false) :
    (s.outwards node).length ≤ 1 := by
  by_cases hs : s.ends.start = node <;> by_cases hf : s.ends.finish = node <;>
    simp_all [outwards, Ends.isLoopAt]

/-! ## Lists of what leads away from a node -/

/-- The second list has the same entries in the same order, but if the edge leads back to the node, then its two
entries have changed places. -/
inductive SameListing {α : Type} (reach : α → EdgeId × NodeId) (edge : EdgeId) (node : NodeId) :
    (leadsBack : Bool) → List α → List α → Prop
  | same (entries : List α) : SameListing reach edge node false entries entries
  | swapped (x y : α) (before after : List α) (first : reach x = (edge, node)) (second : reach y = (edge, node)) :
    SameListing reach edge node true (before ++ x :: y :: after) (before ++ y :: x :: after)

namespace SameListing

section

variable {α β : Type} {reach : α → EdgeId × NodeId} {edge : EdgeId} {node : NodeId} {leadsBack : Bool}
  {entries entries' : List α}

theorem perm (h : SameListing reach edge node leadsBack entries entries') : entries'.Perm entries := by
  cases h with
  | same => exact .refl _
  | swapped x y before after => exact (List.Perm.swap x y after).append_left before

theorem map {reach' : β → EdgeId × NodeId} {f : α → β} (hf : ∀ x, reach' (f x) = reach x)
    (h : SameListing reach edge node leadsBack entries entries') :
    SameListing reach' edge node leadsBack (entries.map f) (entries'.map f) := by
  cases h with
  | same => exact .same _
  | swapped x y before after first second =>
    simp only [List.map_append, List.map_cons]
    exact .swapped _ _ _ _ ((hf x).trans first) ((hf y).trans second)

/-- Entries that have changed places are the same as far as their edges go. -/
theorem map_find? (h : SameListing reach edge node leadsBack entries entries') (p : α → Bool) :
    (entries'.find? p).map (fun x => (reach x).1) = (entries.find? p).map fun x => (reach x).1 := by
  cases h with
  | same => rfl
  | swapped x y before after first second =>
    rw [List.find?_append, List.find?_append]
    cases before.find? p with
    | some _ => rfl
    | none => cases hx : p x <;> cases hy : p y <;> simp [hx, hy, first, second]

end

end SameListing

/-- The edge of an arm and the node that it leads to. -/
def Arm.reach (a : Arm K) : EdgeId × NodeId := (a.edge, a.far)

section Layout

variable {edge : EdgeId} {leadsBack : Bool} {n n' : Neighborhood K}

/-- Arms that lead back to their node single out no pairing, so it does not matter if they change places. -/
theorem SameListing.layout_eq (h : SameListing Arm.reach edge n.node leadsBack n.arms n'.arms) :
    n'.layout = n.layout := by
  rcases Neighborhood.layout_perm h.perm with same | ⟨a, b, arms, arms', apart, -⟩
  · exact same
  · rw [arms, arms'] at h
    -- two arms that have changed places lead to one node
    exfalso
    generalize pair : [a, b] = entries, swapped : [b, a] = entries' at h
    cases h with
    | same =>
      obtain ⟨rfl, -⟩ : a = b ∧ _ := by simpa [← pair] using swapped.symm
      exact apart rfl
    | swapped x y before after first second =>
      have far : x.far = y.far := congrArg Prod.snd (first.trans second.symm)
      have length : 2 = before.length + (after.length + 2) := by simpa using congrArg List.length pair
      obtain rfl : before = [] := List.length_eq_zero_iff.1 (by omega)
      obtain ⟨rfl, rfl, -⟩ : a = x ∧ b = y ∧ _ := by simpa using pair
      exact apart far

end Layout

/-! ## Drafts that differ in the way one segment is stored -/

namespace Draft

/-- The second draft has turned the segment with number `k` around. -/
structure Reversed (k : Nat) (s : Segment K) (d d' : Draft K) : Prop where
  positions : d'.positions = d.positions
  here : d.segments[k]? = some s
  segments : d'.segments = d.segments.setIfInBounds k s.reverse

section Reversed

variable {k : Nat} {s : Segment K} {d d' : Draft K}

theorem hasEnds_reverse : d.HasEnds s.reverse ↔ d.HasEnds s := And.comm

/-- Adding the segment turned around leads to the draft with the segment turned around. -/
theorem reversed_take (h : d.HasEnds s) :
    Reversed d.segments.size s (d.take (.segment s)).2 (d.take (.segment s.reverse)).2 := by
  obtain ⟨ends, hs⟩ := take_segment h
  obtain ⟨ends', hr⟩ := take_segment (hasEnds_reverse.2 h)
  rw [hs, hr]
  exact ⟨rfl, by simp, by grind⟩

/-- Any step keeps the difference. -/
theorem Reversed.take (h : Reversed k s d d') (step : Step K) : Reversed k s (d.take step).2 (d'.take step).2 := by
  obtain ⟨positions, here, segments⟩ := h
  have inside := (Array.getElem?_eq_some_iff.1 here).1
  cases step with
  | node position => exact ⟨by simp [Draft.take, addNode, positions], here, segments⟩
  | segment t =>
    by_cases ends : d.HasEnds t
    · obtain ⟨ends_lt, ht⟩ := take_segment ends
      have ends' : d'.HasEnds t := by rwa [HasEnds, positions]
      obtain ⟨ends_lt', ht'⟩ := take_segment ends'
      rw [ht, ht']
      refine ⟨positions, ?_, ?_⟩
      · simp [Array.getElem?_push, here, Nat.ne_of_lt inside]
      · simp only [segments]
        grind
    · obtain ⟨fault, ht⟩ := take_segment_refused ends
      have ends' : ¬d'.HasEnds t := by rwa [HasEnds, positions]
      obtain ⟨fault', ht'⟩ := take_segment_refused ends'
      rw [ht, ht']
      exact ⟨positions, here, segments⟩

theorem Reversed.run (h : Reversed k s d d') (script : List (Step K)) :
    Reversed k s (d.run script).2 (d'.run script).2 := by
  induction script generalizing d d' with
  | nil => exact h
  | cons step script ih => exact ih (h.take step)

/-! ## The arms of a node -/

theorem arms_congr (positions : d'.positions = d.positions) : d'.arms = d.arms := by
  funext s i node
  have : d'.arm? s i = d.arm? s i := by
    funext t
    simp [arm?, anchor?, position?, positions]
  rw [arms, arms, this]

/-- Turned around, a segment has the same arms in reverse order. -/
theorem arms_reverse (d : Draft K) (s : Segment K) (i : Nat) (node : NodeId) :
    d.arms s.reverse i node = (d.arms s i node).reverse := by
  have turned (t : Travel) : d.arm? s.reverse i t.reverse = d.arm? s i t := by
    have target : s.reverse.ends.target t.reverse = s.ends.target t := by simp [Segment.reverse]
    have allows (t : Travel) : s.reverse.access.allows t = s.access.allows t.reverse := by simp [Segment.reverse]
    simp [arm?, anchor?, target, allows]
  rw [arms, Segment.outwards_reverse, List.filterMap_reverse, List.filterMap_map, arms]
  congr 2
  funext t
  exact turned t

/-- A segment of the draft has an arm at each end. -/
theorem exists_arm? (h : s ∈ d.segments) (i : Nat) (t : Travel) :
    ∃ a, d.arm? s i t = some a ∧ a.reach = (.ofIndex i, s.ends.target t) := by
  obtain ⟨anchor, ha⟩ := exists_anchor? h t
  exact ⟨_, congrArg (Option.map _) ha, rfl⟩

/-- In reverse order, the arms of one segment at a node change places if it leads back there. -/
theorem sameListing_reverse (h : s ∈ d.segments) (i : Nat) (node : NodeId) (before after : List (Arm K)) :
    SameListing Arm.reach (.ofIndex i) node (s.ends.isLoopAt node)
      (before ++ (d.arms s i node ++ after)) (before ++ ((d.arms s i node).reverse ++ after)) := by
  cases back : s.ends.isLoopAt node with
  | false =>
    have short : (d.arms s i node).length ≤ 1 :=
      Nat.le_trans (List.length_filterMap_le ..) (Segment.length_outwards_le back)
    have : (d.arms s i node).reverse = d.arms s i node := by
      match d.arms s i node, short with
      | [], _ | [_], _ => rfl
    rw [this]
    exact .same _
  | true =>
    obtain ⟨start, finish⟩ : s.ends.start = node ∧ s.ends.finish = node := by simpa [Ends.isLoopAt] using back
    obtain ⟨x, hx, first⟩ := exists_arm? h i .forward
    obtain ⟨y, hy, second⟩ := exists_arm? h i .backward
    have : d.arms s i node = [x, y] := by simp [arms, Segment.outwards, start, finish, hx, hy]
    rw [this]
    exact .swapped x y before after (by rw [first, Ends.target, finish]) (by rw [second, Ends.target, start])

theorem Reversed.armsAt (h : Reversed k s d d') (fits : d.segments.size ≤ UInt32.size) (node : NodeId) :
    SameListing Arm.reach (.ofIndex k) node (s.ends.isLoopAt node) (d.build.armsAt node) (d'.build.armsAt node) := by
  obtain ⟨positions, here, segments⟩ := h
  have inside := (Array.getElem?_eq_some_iff.1 here).1
  have list : d'.segments.toList = d.segments.toList.set k s.reverse := by simp [segments]
  have here' : (d.segments.toList.set k s.reverse)[k]? = some s.reverse := by simp [inside]
  rw [armsAt_build fits, armsAt_build (by simpa [segments] using fits), arms_congr positions, list, zipIdx_split here',
    zipIdx_split (by simpa using here), List.take_set_of_le (Nat.le_refl k), List.drop_set_of_lt (Nat.lt_succ_self k)]
  simp only [List.flatMap_append, List.flatMap_cons, arms_reverse]
  exact sameListing_reverse (Array.mem_of_getElem? here) k node _ _

end Reversed

end Draft

/-! ## Maps with the same roads -/

/-- An edge at a node, no matter which way it is stored: where it leads, and where its course begins. -/
def Incidence.sight (i : Incidence K) : (EdgeId × NodeId) × Point K := ((i.edge, i.far), i.anchor)

/-- Both surveys fail for one reason, or they find the same node with the same arms, up to the order of the two arms of
an edge that leads back. -/
inductive SameSurvey (edge : EdgeId) (node : NodeId) (leadsBack : Bool) :
    Except (Fault K) (Neighborhood K) → Except (Fault K) (Neighborhood K) → Prop
  | failed (fault : Fault K) : SameSurvey edge node leadsBack (.error fault) (.error fault)
  | found (position : Point K) {arms arms' : List (Arm K)}
      (listing : SameListing Arm.reach edge node leadsBack arms arms') :
      SameSurvey edge node leadsBack (.ok ⟨node, position, arms⟩) (.ok ⟨node, position, arms'⟩)

/-- Whether an edge leads from a node back to it. -/
def RoadMap.leadsBack (map : RoadMap K) (edge : EdgeId) (node : NodeId) : Bool :=
  (map.ends? edge).any (·.isLoopAt node)

/-- Two maps that answer alike, although one of their edges may be stored in different ways. -/
structure SameRoads [Scalar K] (edge : EdgeId) (map map' : RoadMap K) : Prop where
  find : ∀ start finish : NodeId, map'.findEdge? start finish = map.findEdge? start finish
  listing : ∀ node : NodeId, SameListing Prod.fst edge node (map.leadsBack edge node)
    ((map.incidences node).map Incidence.sight) ((map'.incidences node).map Incidence.sight)
  survey : ∀ node : NodeId, SameSurvey edge node (map.leadsBack edge node) (survey map.view map.allows node)
    (survey map'.view map'.allows node)
  resolve : ∀ (rule : SideRule K) (node : NodeId) (query : Point K),
    resolve map'.view map'.allows rule node query = resolve map.view map.allows rule node query

/-- Directions do not depend on the order of the arms of an edge that leads back. -/
theorem SameSurvey.map_directions [Scalar K] {edge : EdgeId} {node : NodeId} {leadsBack : Bool}
    {found found' : Except (Fault K) (Neighborhood K)} (h : SameSurvey edge node leadsBack found found')
    (rule : SideRule K) (query : Point K) :
    found'.map (·.directions rule query) = found.map (·.directions rule query) := by
  cases h with
  | failed => rfl
  | @found position arms arms' listing =>
    have layout : (⟨node, position, arms'⟩ : Neighborhood K).layout = (⟨node, position, arms⟩ : Neighborhood K).layout :=
      listing.layout_eq
    simp only [Except.map, Neighborhood.directions, layout]
    rfl

/-- Drafts that differ in the way one segment is stored make maps with the same roads. -/
theorem Draft.sameRoads_build [Scalar K] {k : Nat} {s : Segment K} {d d' : Draft K} (h : Reversed k s d d')
    (fits : d.segments.size ≤ UInt32.size) : SameRoads (.ofIndex k) d.build d'.build := by
  have back (node : NodeId) : d.build.leadsBack (.ofIndex k) node = s.ends.isLoopAt node := by
    rw [RoadMap.leadsBack, ends?_build, index_of_getElem? fits h.here, h.here]
    rfl
  have arms (node : NodeId) : SameListing Arm.reach (.ofIndex k) node (d.build.leadsBack (.ofIndex k) node)
      (d.build.armsAt node) (d'.build.armsAt node) := by
    rw [back]
    exact h.armsAt fits node
  have survey (node : NodeId) : SameSurvey (.ofIndex k) node (d.build.leadsBack (.ofIndex k) node)
      (survey d.build.view d.build.allows node) (survey d'.build.view d'.build.allows node) := by
    have positions : d'.build.view.position? node = d.build.view.position? node := by
      simp [RoadMap.view, Draft.position?, h.positions]
    rw [survey_eq, survey_eq, positions]
    cases d.build.view.position? node with
    | none => exact .failed _
    | some position => exact .found position (arms node)
  refine ⟨fun start finish => ?_, fun node => ?_, survey, fun rule node query => ?_⟩
  · rw [RoadMap.findEdge?_eq, RoadMap.findEdge?_eq]
    exact (arms start).map_find? _
  · have sights (map : RoadMap K) : (map.incidences node).map Incidence.sight =
        (map.armsAt node).map fun a => ((a.edge, a.far), a.anchor) := by
      rw [RoadMap.armsAt, List.map_map]
      rfl
    rw [sights, sights]
    exact (arms node).map fun _ => rfl
  · rw [resolve_eq, resolve_eq]
    simp only [(survey node).map_directions]

/-- **The way an edge is stored does not matter**: if a script adds an edge, and it is made to add the edge turned
around, then the two maps answer alike. -/
theorem sameRoads_mapOf_reverse [Scalar K] {before after : List (Step K)} {s : Segment K} {edge : EdgeId}
    (added : ((Draft.empty.run before).2.take (.segment s)).1 = .edge edge)
    (fits : (mapOf (before ++ .segment s :: after)).Fits) :
    SameRoads edge (mapOf (before ++ .segment s :: after)) (mapOf (before ++ .segment s.reverse :: after)) := by
  have ends : (Draft.empty.run before).2.HasEnds s := by
    refine Classical.byContradiction fun none => ?_
    obtain ⟨fault, refused⟩ := Draft.take_segment_refused none
    rw [refused] at added
    cases added
  obtain ⟨_, ht⟩ := Draft.take_segment ends
  obtain rfl : Ident.ofIndex (Draft.empty.run before).2.segments.size = edge := by simpa [ht] using added
  have slots := fits.slots
  simp only [mapOf, Draft.run_append, Draft.edgeCount_build] at slots ⊢
  exact Draft.sameRoads_build ((Draft.reversed_take ends).run after) (Nat.le_of_lt (by omega))

/-- A road that ends in a loop, which is one-way. -/
def lollipop : List (Step Rat) := [.node ⟨0, 0⟩, .node ⟨0, 1⟩, .segment (.straight ⟨0⟩ ⟨1⟩ .both)]

theorem sameRoads_mapOf_reverse_lollipop :
    let loop : Segment Rat := ⟨⟨⟨1⟩, ⟨1⟩⟩, .forwardOnly, [⟨1, 2⟩, ⟨-1, 2⟩]⟩
    ((Draft.empty.run lollipop).2.take (.segment loop)).1 = .edge ⟨1⟩ ∧ (mapOf (lollipop ++ [.segment loop])).Fits ∧
      SameRoads ⟨1⟩ (mapOf (lollipop ++ [.segment loop])) (mapOf (lollipop ++ [.segment loop.reverse])) := by
  intro loop
  have added : ((Draft.empty.run lollipop).2.take (.segment loop)).1 = .edge ⟨1⟩ := by decide +kernel
  have fits : (mapOf (lollipop ++ [.segment loop])).Fits := by decide +kernel
  exact ⟨added, fits, sameRoads_mapOf_reverse added fits⟩

end Roadside
