import Roadside.Proofs.Incidences

/-!
# Arriving at one end is leaving the other

An edge between two nodes is listed at both of them, in opposite directions, and a loop is listed twice at its one node.
Whether traffic may arrive on it at the one end and whether it may leave on it at the other end is the same question.

* **A survey names an edge once for every direction that fits** (`edgesTo_neighborhood`), and the directions from one
  node to another are those back, in reverse (`countP_outwards_reverse`).
* **Both ends agree** (`survey_endsAgree`): whatever edges are open, those on which traffic may arrive from another node
  are those on which it may leave that node.
-/

namespace Roadside

variable {K : Type}

/-- The edges that lead to another node and serve a purpose, each as often as it has such an arm. -/
def Neighborhood.edgesTo (n : Neighborhood K) (far : NodeId) (purpose : Usage → Bool) : List EdgeId :=
  (n.arms.filter fun a => a.far = far && purpose a.usage).map (·.edge)

/-! ## Directions there and back -/

/-- What fits one of the two directions fits the other one in reverse. -/
theorem Travel.countP_reverse (p : Travel → Bool) :
    [Travel.forward, .backward].countP (fun t => p t.reverse) = [Travel.forward, .backward].countP p := by
  have turned : [Travel.forward, .backward].map Travel.reverse = [.backward, .forward] := rfl
  calc [Travel.forward, .backward].countP (fun t => p t.reverse)
      = ([Travel.forward, .backward].map Travel.reverse).countP p := by rw [List.countP_map]; rfl
    _ = [Travel.backward, .forward].countP p := by rw [turned]
    _ = [Travel.forward, .backward].countP p := (List.Perm.swap ..).countP_eq p

namespace Segment

theorem outwards_eq_filter (s : Segment K) (node : NodeId) :
    s.outwards node = [Travel.forward, .backward].filter (s.ends.source · = node) := by
  by_cases start : s.ends.start = node <;> by_cases finish : s.ends.finish = node <;>
    simp [outwards, Ends.source, Ends.target, Travel.reverse, start, finish]

/-- The directions of a segment from one node to another are those from the other node back, in reverse. -/
theorem countP_outwards_reverse (s : Segment K) (node far : NodeId) (p : Travel → Bool) :
    (s.outwards node).countP (fun t => s.ends.target t = far && p t.reverse) =
      (s.outwards far).countP fun t => s.ends.target t = node && p t := by
  rw [outwards_eq_filter, outwards_eq_filter, List.countP_filter, List.countP_filter,
    ← Travel.countP_reverse fun t => (s.ends.target t = node && p t) && s.ends.source t = far]
  refine List.countP_congr fun t _ => ?_
  simp only [Ends.source_reverse, Bool.and_eq_true, decide_eq_true_eq]
  constructor
  · rintro ⟨⟨there, fit⟩, here⟩
    exact ⟨⟨here, fit⟩, there⟩
  · rintro ⟨⟨here, fit⟩, there⟩
    exact ⟨⟨there, fit⟩, here⟩

end Segment

/-! ## Surveys of packed maps -/

namespace Draft

variable {d : Draft K}

/-- Each direction in which a segment is listed has an incidence, so what fits an incidence is counted by directions. -/
theorem map_edge_incidence? {s : Segment K} {k : Nat} (hs : s ∈ d.segments) {p : Incidence K → Bool}
    {q : Travel → Bool} (same : ∀ i t, d.incidence? s k t = some i → p i = q t) (travels : List Travel) :
    ((travels.filterMap (d.incidence? s k)).filter p).map (·.edge) =
      List.replicate (travels.countP q) (.ofIndex k) := by
  induction travels with
  | nil => rfl
  | cons t travels ih =>
    obtain ⟨anchor, listed⟩ := exists_incidence? hs t
    rw [List.filterMap_cons_some listed, List.filter_cons, same _ t listed, List.countP_cons]
    cases q t with
    | false => exact ih
    | true =>
      rw [if_pos rfl, if_pos rfl, List.map_cons, ih]
      rfl

/-- A node is surveyed segment by segment, and each segment is named once for every direction that fits. -/
theorem edgesTo_neighborhood (fits : d.segments.size ≤ UInt32.size) (allows : Openness) (node far : NodeId)
    (position : Point K) (purpose : Usage → Bool) :
    (d.build.view.neighborhood allows node position).edgesTo far purpose =
      d.segments.toList.zipIdx.flatMap fun (s, k) => List.replicate
        ((s.outwards node).countP fun t =>
          s.ends.target t = far && purpose ⟨allows (.ofIndex k) t.reverse, allows (.ofIndex k) t⟩) (.ofIndex k) := by
  have listed : d.build.view.incidences node = _ := incidences_build fits node
  rw [Neighborhood.edgesTo, RoadView.neighborhood, listed, List.filter_map, List.map_map, List.filter_flatMap,
    List.map_flatMap]
  refine List.flatMap_congr fun entry here => ?_
  obtain ⟨s, k⟩ := entry
  rw [List.mem_zipIdx_iff_getElem?, Array.getElem?_toList] at here
  refine map_edge_incidence? (Array.mem_of_getElem? here) (fun i t hi => ?_) (s.outwards node)
  obtain ⟨edge, far, rfl⟩ := incidence?_eq_some hi
  simp [Incidence.arm, edge, far, Incidence.inward]

theorem edgesTo_agree (fits : d.segments.size ≤ UInt32.size) (allows : Openness) (node other : NodeId)
    (position position' : Point K) :
    (d.build.view.neighborhood allows node position).edgesTo other (·.arrive) =
      (d.build.view.neighborhood allows other position').edgesTo node (·.leave) := by
  rw [edgesTo_neighborhood fits, edgesTo_neighborhood fits]
  refine List.flatMap_congr fun entry _ => ?_
  obtain ⟨s, k⟩ := entry
  exact congrArg (List.replicate · _) (s.countP_outwards_reverse node other (allows (.ofIndex k)))

end Draft

/-- **Both ends agree**: on a map that a script makes, whatever edges are open, two nodes have surveys, and the edges on
which traffic may arrive at the first one from the second one are those on which it may leave the second one for the
first one: the same edges, equally often and even in the same order. The two nodes may be one and the same. -/
theorem survey_endsAgree {script : List (Step K)} (fits : (mapOf script).Fits) (allows : Openness)
    {node other : NodeId} (known : node.index < (mapOf script).nodeCount)
    (known' : other.index < (mapOf script).nodeCount) :
    ∃ n n', survey (mapOf script).view allows node = .ok n ∧ survey (mapOf script).view allows other = .ok n' ∧
      n.edgesTo other (·.arrive) = n'.edgesTo node (·.leave) := by
  obtain ⟨position, here⟩ := RoadMap.exists_position? known
  obtain ⟨position', there⟩ := RoadMap.exists_position? known'
  have agree := Draft.edgesTo_agree (Draft.size_segments_le fits) allows node other position position'
  exact ⟨_, _, survey_eq_neighborhood here, survey_eq_neighborhood there, agree⟩

/-- The two parallel edges of the tangle are stored in opposite directions. The first one and the loop are one-way. -/
theorem survey_endsAgree_tangle :
    let allows := Openness.shut (fun _ _ => true) [(⟨0⟩, .backward), (⟨1⟩, .backward)]
    (mapOf tangle).Fits ∧ (⟨0⟩ : NodeId).index < (mapOf tangle).nodeCount ∧
      (⟨1⟩ : NodeId).index < (mapOf tangle).nodeCount ∧
      ∃ n n', survey (mapOf tangle).view allows ⟨0⟩ = .ok n ∧ survey (mapOf tangle).view allows ⟨1⟩ = .ok n' ∧
        n.edgesTo ⟨1⟩ (·.arrive) = n'.edgesTo ⟨0⟩ (·.leave) := by
  intro allows
  have fits : (mapOf tangle).Fits := by decide +kernel
  have known : (⟨0⟩ : NodeId).index < (mapOf tangle).nodeCount := by decide +kernel
  have known' : (⟨1⟩ : NodeId).index < (mapOf tangle).nodeCount := by decide +kernel
  exact ⟨fits, known, known', survey_endsAgree fits allows known known'⟩

/-- The first edge leads away only, and the other parallel one both ways. The loop may be left on and arrived on. -/
example :
    let allows := Openness.shut (fun _ _ => true) [(⟨0⟩, .backward), (⟨1⟩, .backward)]
    let near := (mapOf tangle).view.neighborhood allows ⟨0⟩ ⟨0, 0⟩
    let far := (mapOf tangle).view.neighborhood allows ⟨1⟩ ⟨0, 1⟩
    near.edgesTo ⟨1⟩ (·.arrive) = [⟨2⟩] ∧ near.edgesTo ⟨1⟩ (·.leave) = [⟨0⟩, ⟨2⟩] ∧
      far.edgesTo ⟨0⟩ (·.arrive) = [⟨0⟩, ⟨2⟩] ∧ far.edgesTo ⟨1⟩ (·.arrive) = [⟨1⟩] ∧
      far.edgesTo ⟨1⟩ (·.leave) = [⟨1⟩] := by decide +kernel

end Roadside
