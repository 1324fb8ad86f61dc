import Roadside.Proofs.OpenStreetMap.Joints
import Roadside.Proofs.OpenStreetMap.Parts
import Roadside.Proofs.OpenStreetMap.TurnedLines

/-!
# Nodes that only dropped ways ask for

A way for cars is dropped if the extract holds fewer than two of its nodes. But the node that it may name has been
counted by then, so a road that runs through this node is cut there, although no other road of the map leads there.

* **The nodes of a map** are the joints of the kept ways and such spare nodes, and all else that the kept ways name are
  bends (`roadMap_spareNodes`). Leaving a dropped way out of the extract leaves the map as it is, unless it is the only
  way that asks for a spare node.
-/

namespace Roadside.OpenStreetMap

/-! ## Dropped ways -/

/-- The ways for cars of which the extract does not hold two nodes. -/
def droppedWays (elements : List Element) : List (Way × String) :=
  (elements.filterMap Element.drivable?).filter fun (w, _) => (knownRefs elements w.refs).length < 2

/-- The known nodes that the dropped ways name, way by way. -/
def droppedRefs (elements : List Element) : List Int :=
  (droppedWays elements).flatMap fun w => knownRefs elements w.1.refs

/-- One kept way runs through the node, once only, without starting or ending there, but a dropped way names it. -/
structure IsSpare (elements : List Element) (ref : Int) : Prop where
  once : (keptRefs elements).count ref = 1
  inside : ¬IsWayEnd elements ref
  asked : ref ∈ droppedRefs elements

/-- A spare node that the way names is named by another dropped way as well. -/
def IsNeedless (elements : List Element) (w : Way) : Prop :=
  ∀ ref ∈ knownRefs elements w.refs, IsSpare elements ref → 2 ≤ (droppedRefs elements).count ref

section Dropped

variable {elements : List Element} {ref : Int}

instance : Decidable (IsWayEnd elements ref) := inferInstanceAs (Decidable (∃ w ∈ keptWays elements, _ ∨ _))

instance : Decidable (IsJoint elements ref) := inferInstanceAs (Decidable (_ ∨ _))

instance : Decidable (IsSpare elements ref) :=
  decidable_of_iff ((keptRefs elements).count ref = 1 ∧ ¬IsWayEnd elements ref ∧ ref ∈ droppedRefs elements)
    ⟨fun h => ⟨h.1, h.2.1, h.2.2⟩, fun h => ⟨h.1, h.2, h.3⟩⟩

/-- The ways for cars are the kept ones and the dropped ones. -/
theorem perm_drivableRefs (elements : List Element) :
    (drivableRefs elements).Perm (keptRefs elements ++ droppedRefs elements) := by
  have dropped : droppedWays elements = (elements.filterMap Element.drivable?).filter
      fun w => !decide (2 ≤ (knownRefs elements w.1.refs).length) := by
    simp only [droppedWays, ← decide_not, Nat.not_le]
  rw [drivableRefs, keptRefs, droppedRefs, ← List.flatMap_append, dropped]
  exact ((List.filter_append_perm _ _).flatMap_right _).symm

theorem count_drivableRefs (elements : List Element) (ref : Int) :
    (drivableRefs elements).count ref = (keptRefs elements).count ref + (droppedRefs elements).count ref := by
  rw [(perm_drivableRefs elements).count_eq, List.count_append]

/-- The names that have nodes are the joints and the spare ones. -/
theorem mem_refs_orderOf_iff_isJoint :
    ref ∈ (orderOf elements).map (·.ref) ↔ IsJoint elements ref ∨ IsSpare elements ref := by
  constructor
  · intro h
    by_cases joint : IsJoint elements ref
    · exact .inl joint
    · obtain ⟨named, asked⟩ := mem_cornersOf_iff.1 (mem_refs_orderOf.1 h)
      rw [IsJoint, not_or] at joint
      obtain ⟨inside, once⟩ := joint
      have twice := asked.resolve_left inside
      rw [count_drivableRefs] at twice
      have named := List.count_pos_iff.2 named
      exact .inr ⟨by omega, inside, List.count_pos_iff.1 (by omega)⟩
  · rintro (joint | spare)
    · exact mem_refs_orderOf.2 (mem_cornersOf_of_isJoint joint)
    · have once := spare.once
      have asked := List.count_pos_iff.2 spare.asked
      refine mem_refs_orderOf.2 (mem_cornersOf_iff.2 ⟨List.count_pos_iff.1 (by omega), .inr ?_⟩)
      rw [count_drivableRefs]
      omega

end Dropped

/-! ## Extracts with a dropped way less -/

/-- The second extract is the first one without a way for cars that is dropped. -/
structure WayLeftOut (before : List Element) (w : Way) (after elements rest : List Element) : Prop where
  here : elements = before ++ ([.way w] ++ after)
  rest : rest = before ++ after
  drivable : (Tags.highway? w.tags).isSome = true
  short : (knownRefs elements w.refs).length < 2

namespace WayLeftOut

variable {before after elements rest : List Element} {w : Way} {ref : Int}
  (h : WayLeftOut before w after elements rest)
include h

theorem positions_eq : positions rest = positions elements := by
  rw [h.here, h.rest, positions_way]

theorem exists_drivable? : ∃ highway, Element.drivable? (.way w) = some (w, highway) := by
  obtain ⟨highway, drivable⟩ := Option.isSome_iff_exists.1 h.drivable
  exact ⟨highway, by rw [Element.drivable?, drivable, Option.map_some]⟩

theorem keptWays_eq : keptWays rest = keptWays elements := by
  obtain ⟨highway, drivable⟩ := h.exists_drivable?
  have short : ¬2 ≤ (knownRefs elements w.refs).length := Nat.not_le.2 h.short
  have none : keptIn elements [.way w] = [] := by simp [keptIn, drivable, short]
  have parts : keptIn elements (before ++ ([.way w] ++ after)) = keptIn elements (before ++ after) := by
    rw [keptIn_append, keptIn_append, keptIn_append, none, List.nil_append]
  rw [← h.here, ← h.rest] at parts
  change keptIn rest rest = keptIn elements elements
  rw [keptIn_congr h.positions_eq, parts]

theorem keptRefs_eq : keptRefs rest = keptRefs elements := by
  rw [keptRefs, h.keptWays_eq, knownRefs_congr h.positions_eq, keptRefs]

theorem isWayEnd_iff : IsWayEnd rest ref ↔ IsWayEnd elements ref := by
  rw [IsWayEnd, h.keptWays_eq, knownRefs_congr h.positions_eq, IsWayEnd]

theorem count_drivableRefs (ref : Int) :
    (drivableRefs elements).count ref = (drivableRefs rest).count ref + (knownRefs elements w.refs).count ref := by
  obtain ⟨highway, drivable⟩ := h.exists_drivable?
  have parts : refsIn elements (before ++ ([.way w] ++ after)) =
      refsIn elements before ++ (knownRefs elements w.refs ++ refsIn elements after) := by
    rw [refsIn_append, refsIn_append, refsIn_way elements drivable]
  rw [← h.here] at parts
  rw [drivableRefs_eq, drivableRefs_eq, refsIn_congr h.positions_eq, parts, h.rest, refsIn_append, List.count_append,
    List.count_append, List.count_append]
  omega

/-- The node that the dropped way names, if there is one, is named by it once. -/
theorem count_knownRefs (mem : ref ∈ knownRefs elements w.refs) : (knownRefs elements w.refs).count ref = 1 := by
  have pos := List.count_pos_iff.2 mem
  have le := List.count_le_length (a := ref) (l := knownRefs elements w.refs)
  have short := h.short
  omega

theorem mem_droppedRefs (mem : ref ∈ knownRefs elements w.refs) : ref ∈ droppedRefs elements := by
  obtain ⟨highway, drivable⟩ := h.exists_drivable?
  have here : (.way w : Element) ∈ elements := by
    rw [h.here]
    exact List.mem_append_right _ List.mem_cons_self
  have dropped : (w, highway) ∈ droppedWays elements :=
    List.mem_filter.2 ⟨List.mem_filterMap.2 ⟨_, here, drivable⟩, decide_eq_true h.short⟩
  exact List.mem_flatMap.2 ⟨_, dropped, mem⟩

/-- What is a crossing without the dropped way is one with it. -/
theorem isCrossing_of_rest {v : Vertex} (crossing : isCrossing rest v = true) : isCrossing elements v = true := by
  rw [isCrossing_iff] at crossing ⊢
  rw [h.count_drivableRefs]
  omega

/-- The names that have nodes without the dropped way have them with it. -/
theorem mem_refs_orderOf_of_rest (mem : ref ∈ (orderOf rest).map (·.ref)) :
    ref ∈ (orderOf elements).map (·.ref) := by
  rw [mem_refs_orderOf, mem_cornersOf_iff, h.keptRefs_eq, h.isWayEnd_iff] at mem
  rw [mem_refs_orderOf, mem_cornersOf_iff, h.count_drivableRefs]
  exact ⟨mem.1, mem.2.imp_right fun twice => by omega⟩

/-! ### A way that no spare node depends on -/

/-- Bends without the dropped way are bends with it, unless a spare node depends on the way. -/
theorem isCrossing_of_mem_bendsOf (needless : IsNeedless elements w) {v : Vertex} (bend : v ∈ bendsOf rest) :
    isCrossing elements v = false := by
  refine Bool.eq_false_iff.2 fun crossing => ?_
  rw [isCrossing_iff, h.count_drivableRefs] at crossing
  have single := count_drivableRefs_of_mem_bendsOf bend
  have kept : (keptRefs rest).count v.ref ≤ (drivableRefs rest).count v.ref := keptRefs_sublist.count_le v.ref
  have named : 0 < (keptRefs rest).count v.ref := by
    have mem : v.ref ∈ (bendsOf rest).map (·.ref) := List.mem_map_of_mem bend
    rw [← List.count_pos_iff] at mem
    rw [count_keptRefs]
    omega
  -- so the way names the bend, which is a spare node with it
  have mem : v.ref ∈ knownRefs elements w.refs := List.count_pos_iff.1 (by omega)
  have spare : IsSpare elements v.ref := by
    refine ⟨by rw [← h.keptRefs_eq]; omega, fun wayEnd => ?_, h.mem_droppedRefs mem⟩
    refine ref_not_mem_cornersOf bend (mem_cornersOf_iff.2 ⟨List.count_pos_iff.1 named, .inl ?_⟩)
    exact h.isWayEnd_iff.2 wayEnd
  have asked := needless v.ref mem spare
  have all := OpenStreetMap.count_drivableRefs elements v.ref
  rw [h.count_drivableRefs, h.count_knownRefs mem, spare.once] at all
  omega

/-- Then the kept ways have the same stretches. -/
theorem stretchesOf_eq (needless : IsNeedless elements w) {v : Way × String} (kept : v ∈ keptWays rest) :
    stretchesOf elements v = stretchesOf rest v := by
  have line : walk (stretchesOf rest v) = (courseOf elements v).vertices := by
    rw [walk_stretchesOf kept, courseOf_congr h.positions_eq]
  rw [stretchesOf, ← line]
  refine stretches_walk ((isChain_goesOn_stretches _).imp fun s t goesOn => ?_) fun s hs v' hv' => ?_
  · exact ⟨goesOn.1, h.isCrossing_of_rest goesOn.2⟩
  · exact h.isCrossing_of_mem_bendsOf needless (List.mem_flatMap.2 ⟨v, kept, List.mem_flatMap.2 ⟨s, hs, hv'⟩⟩)

theorem cut_courses_eq (needless : IsNeedless elements w) : cut (courses rest) = cut (courses elements) := by
  rw [cut_courses, cut_courses, h.keptWays_eq, courseOf_congr h.positions_eq]
  refine List.flatMap_congr fun v mem => ?_
  have stretches := h.stretchesOf_eq needless (h.keptWays_eq ▸ mem)
  rw [stretchesOf, stretchesOf, courseOf_congr h.positions_eq] at stretches
  rw [stretches]

/-! ### A way that a spare node depends on -/

/-- Without the only dropped way that names a spare node there are fewer nodes. -/
theorem length_orderOf_lt (mem : ref ∈ knownRefs elements w.refs)
    (spare : IsSpare elements ref) (alone : (droppedRefs elements).count ref < 2) :
    (orderOf rest).length < (orderOf elements).length := by
  have gone : ref ∉ (orderOf rest).map (·.ref) := by
    rw [mem_refs_orderOf, mem_cornersOf_iff, h.isWayEnd_iff]
    rintro ⟨-, wayEnd | twice⟩
    · exact spare.inside wayEnd
    · have all := OpenStreetMap.count_drivableRefs elements ref
      rw [h.count_drivableRefs, h.count_knownRefs mem, spare.once] at all
      omega
  have sub : ref :: (orderOf rest).map (·.ref) ⊆ (orderOf elements).map (·.ref) :=
    List.cons_subset.2 ⟨mem_refs_orderOf_iff_isJoint.2 (.inr spare), fun _ => h.mem_refs_orderOf_of_rest⟩
  have length := (List.subperm_of_subset (List.nodup_cons.2 ⟨gone, nodup_orderOf rest⟩) sub).length_le
  exact Nat.lt_of_succ_le (by simpa using length)

end WayLeftOut

/-! ## The map of an extract -/

/-- **The nodes of a map** are the joints of the kept ways and the spare nodes that dropped ways ask for. Leaving out a
dropped way leaves the map as it is iff it is not the only one that asks for a spare node. -/
theorem roadMap_spareNodes (elements : List Element) : ∃ map notices, roadMap elements = .ok (map, notices) ∧
    (map.Fits → ∃ numbered, JoinsWays elements map numbered ∧
      ∀ ref, ref ∈ numbered ↔ IsJoint elements ref ∨ IsSpare elements ref) ∧
    ∀ before w after, elements = before ++ .way w :: after → (Tags.highway? w.tags).isSome = true →
      (knownRefs elements w.refs).length < 2 →
      ∃ map' notices', roadMap (before ++ after) = .ok (map', notices') ∧ (map' = map ↔ IsNeedless elements w) := by
  obtain ⟨plot, notices, made, follows, segments⟩ := roadMap_eq elements
  refine ⟨_, notices, made, fun fits => ⟨_, follows.joinsWays segments fits, fun _ => mem_refs_orderOf_iff_isJoint⟩, ?_⟩
  intro before w after here drivable short
  have h : WayLeftOut before w after elements (before ++ after) := ⟨here, rfl, drivable, short⟩
  obtain ⟨plot', notices', made', follows', -⟩ := roadMap_eq (before ++ after)
  refine ⟨_, notices', made', fun same ref mem spare => ?_, fun needless => ?_⟩
  · refine Nat.le_of_not_lt fun alone => ?_
    have fewer := h.length_orderOf_lt mem spare alone
    have nodes := congrArg RoadMap.nodeCount same
    rw [Draft.nodeCount_build, Draft.nodeCount_build, follows.size_positions, follows'.size_positions] at nodes
    omega
  · have map := map_fst_roadMap elements
    have map' := map_fst_roadMap (before ++ after)
    rw [h.cut_courses_eq needless, ← map, made, made'] at map'
    exact Except.ok.inj map'

/-- A street and its nodes. -/
def shortStreet : List Element :=
  [.node 1 ⟨0, 0⟩, .node 2 ⟨0, 10000⟩, .node 3 ⟨0, 20000⟩, .way ⟨10, [1, 2, 3], [("highway", "residential")]⟩]

/-- A lane off the middle of the street, whose other end the extract does not hold. -/
def stub : Way := ⟨11, [2, 99], [("highway", "residential")]⟩

/-- The lane is dropped, but the street is cut in the middle because of it. -/
theorem roadMap_spareNodes_stub : ∃ map notices, roadMap (shortStreet ++ [.way stub]) = .ok (map, notices) ∧ map.Fits ∧
    (∃ numbered, JoinsWays (shortStreet ++ [.way stub]) map numbered ∧
      2 ∈ numbered ∧ ¬IsJoint (shortStreet ++ [.way stub]) 2) ∧
    (Tags.highway? stub.tags).isSome = true ∧ (knownRefs (shortStreet ++ [.way stub]) stub.refs).length < 2 ∧
    ∃ map' notices', roadMap (shortStreet ++ []) = .ok (map', notices') ∧ map' ≠ map := by
  obtain ⟨map, notices, made, nodes, leftOut⟩ := roadMap_spareNodes (shortStreet ++ [.way stub])
  have fits : map.Fits := fits_of_roadMap made (by decide +kernel)
  have spare : IsSpare (shortStreet ++ [.way stub]) 2 := by decide +kernel
  have drivable : (Tags.highway? stub.tags).isSome = true := by decide +kernel
  have short : (knownRefs (shortStreet ++ [.way stub]) stub.refs).length < 2 := by decide +kernel
  obtain ⟨numbered, joins, names⟩ := nodes fits
  obtain ⟨map', notices', made', same⟩ := leftOut shortStreet stub [] rfl drivable short
  refine ⟨map, notices, made, fits, ⟨numbered, joins, (names 2).2 (.inr spare), by decide +kernel⟩, drivable, short,
    map', notices', made', fun eq => ?_⟩
  have twice := same.1 eq 2 (by decide +kernel) spare
  exact absurd twice (by decide +kernel)

end Roadside.OpenStreetMap
