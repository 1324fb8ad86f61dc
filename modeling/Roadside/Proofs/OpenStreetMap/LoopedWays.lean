import Mathlib.Data.List.Nodup
import Roadside.Proofs.OpenStreetMap.Joints
import Roadside.Proofs.OpenStreetMap.Parts
import Roadside.Proofs.OpenStreetMap.TurnedLines

/-!
# Loops that ways make

An edge from a node to itself is drawn where a way comes back to a node without meeting a joint in between. If it comes
back at once, because it names the node twice in a row, the loop is bare: it has no bends, and no length.

* **Stretches split the repetitions** (`countP_stretches`): names repeated in a row are crossings, so each of them is
  a stretch of its own.
* **Loops are explained by the ways** (`roadMap_explainsLoops`): there are as many bare loops as there are repetitions
  in a row in the kept ways, after the missing nodes are left out, and every other loop is where a way leaves a node,
  visits nodes that no road names a second time, and returns.
-/

namespace Roadside

/-- The segment leads from a node straight back to it. -/
def Segment.isBareLoop {K : Type} (s : Segment K) : Bool := s.ends.start = s.ends.finish && s.bends.isEmpty

namespace OpenStreetMap

/-! ## Repetitions in a row -/

/-- How often two neighbours in a list of names are the same. -/
def repeats (refs : List Int) : Nat := (refs.zip refs.tail).countP fun (u, v) => u = v

theorem repeats_cons_cons (u v : Int) (rest : List Int) :
    repeats (u :: v :: rest) = repeats (v :: rest) + if u = v then 1 else 0 := by
  simp [repeats, List.countP_cons]

/-- The neighbours in a list that goes through a name are those up to the name and those from it on. -/
theorem repeats_append : ∀ (refs : List Int) (v : Int) (more : List Int),
    repeats (refs ++ v :: more) = repeats (refs ++ [v]) + repeats (v :: more)
  | [], v, more => by simp [repeats]
  | [u], v, more => by
    rw [List.singleton_append, List.singleton_append, repeats_cons_cons, repeats_cons_cons, Nat.add_comm]
    simp [repeats]
  | u :: w :: refs, v, more => by
    have rest := repeats_append (w :: refs) v more
    rw [List.cons_append, List.cons_append] at rest ⊢
    rw [List.cons_append, List.cons_append, repeats_cons_cons, repeats_cons_cons, rest]
    omega

theorem repeats_eq_zero_iff : ∀ {refs : List Int}, repeats refs = 0 ↔ refs.IsChain (· ≠ ·)
  | [] | [_] => by simp [repeats]
  | u :: v :: rest => by
    rw [repeats_cons_cons, List.isChain_cons_cons, ← repeats_eq_zero_iff]
    by_cases h : u = v <;> simp [h]

/-! ## Stretches -/

/-- The stretch comes back at once to where it starts. -/
def Stretch.isBareLoop (s : Stretch) : Bool := s.start.ref = s.finish.ref && s.bends.isEmpty

/-- If the only repetitions within stretches are bare loops, then so are those along the stretches. -/
theorem repeats_walk {l : List Stretch} (chain : l.IsChain fun s t => s.finish = t.start)
    (within : ∀ s ∈ l, repeats ((s.start :: s.trail).map (·.ref)) = if s.isBareLoop then 1 else 0) :
    repeats ((walk l).map (·.ref)) = l.countP Stretch.isBareLoop := by
  induction l with
  | nil => rfl
  | cons s more ih =>
    obtain ⟨here, later⟩ := List.forall_mem_cons.1 within
    rw [List.countP_cons, ← here]
    cases more with
    | nil => simp [walk]
    | cons t more =>
      obtain ⟨joined, chain⟩ := List.isChain_cons_cons.1 chain
      rw [← ih chain later, walk_cons_cons joined, walk, Stretch.trail, joined]
      simp only [List.map_cons, List.map_append, List.map_nil, ← List.cons_append]
      rw [repeats_append, Nat.add_comm]

/-- Stretches that follow one another are parts of the line that they lead along. -/
theorem isInfix_walk {l : List Stretch} (chain : l.IsChain fun s t => s.finish = t.start) {s : Stretch} (h : s ∈ l) :
    s.start :: s.trail <:+: walk l := by
  induction l with
  | nil => cases h
  | cons t more ih =>
    rcases List.mem_cons.1 h with rfl | h
    · rw [walk, List.flatMap_cons, ← List.cons_append]
      exact (List.prefix_append _ _).isInfix
    · cases more with
      | nil => cases h
      | cons u more =>
        obtain ⟨joined, chain⟩ := List.isChain_cons_cons.1 chain
        rw [walk_cons_cons joined, ← List.cons_append]
        exact (ih chain h).trans (List.suffix_append _ _).isInfix

/-! ## Kept ways -/

/-- What a member contributes stands in order in the whole. -/
theorem sublist_flatMap {α β : Type} (f : α → List β) {l : List α} {a : α} (h : a ∈ l) :
    (f a).Sublist (l.flatMap f) := by
  rw [List.flatMap_def]
  exact List.sublist_flatten_of_mem (List.mem_map_of_mem h)

section KeptWays

variable {elements : List Element} {w : Way × String} {s : Stretch}

/-- The ways for cars name a bend exactly once, and it bends one stretch once. -/
theorem count_of_mem_bendsOf {v : Vertex} (h : v ∈ bendsOf elements) :
    (drivableRefs elements).count v.ref = 1 ∧ ((bendsOf elements).map (·.ref)).count v.ref = 1 := by
  have once := count_drivableRefs_of_mem_bendsOf h
  have named : 0 < ((bendsOf elements).map (·.ref)).count v.ref := List.count_pos_iff.2 (List.mem_map_of_mem h)
  have kept : (keptRefs elements).count v.ref ≤ (drivableRefs elements).count v.ref := keptRefs_sublist.count_le v.ref
  rw [count_keptRefs] at kept
  omega

/-- No two bends have the same name. -/
theorem nodup_bendsOf (elements : List Element) : ((bendsOf elements).map (·.ref)).Nodup := by
  rw [List.nodup_iff_count_eq_one, List.forall_mem_map]
  exact fun v hv => (count_of_mem_bendsOf hv).2

variable (kept : w ∈ keptWays elements) (hs : s ∈ stretchesOf elements w)
include kept hs

/-- The bends of a stretch are among the bends of all kept ways, in order. -/
theorem bends_sublist_bendsOf : s.bends.Sublist (bendsOf elements) :=
  (sublist_flatMap (·.bends) hs).trans (sublist_flatMap (fun w => (stretchesOf elements w).flatMap (·.bends)) kept)

/-- No bend of a stretch has the name of one of its ends. -/
theorem ref_ne_of_mem_bends {v : Vertex} (hv : v ∈ s.bends) : v.ref ≠ s.start.ref ∧ v.ref ≠ s.finish.ref := by
  have bend : v.ref ∉ (orderOf elements).map (·.ref) := ref_not_mem_orderOf kept (List.mem_flatMap.2 ⟨s, hs, hv⟩)
  obtain ⟨start, finish⟩ := ends_mem_orderOf kept hs
  exact ⟨fun same => bend (same ▸ start), fun same => bend (same ▸ finish)⟩

/-- A stretch repeats a name in a row only if it is a bare loop. -/
theorem repeats_of_mem_stretchesOf :
    repeats ((s.start :: s.trail).map (·.ref)) = if s.isBareLoop then 1 else 0 := by
  cases hb : s.bends with
  | nil => simp [Stretch.trail, Stretch.isBareLoop, hb, repeats]
  | cons v more =>
    have bare : s.isBareLoop = false := by simp [Stretch.isBareLoop, hb]
    rw [bare, if_neg Bool.false_ne_true, repeats_eq_zero_iff, Stretch.trail, ← List.cons_append, List.map_append,
      List.isChain_append]
    refine ⟨?_, List.isChain_singleton _, ?_⟩
    · -- the start and the bends have different names
      have names : ((s.start :: s.bends).map (·.ref)).Nodup := by
        refine List.nodup_cons.2 ⟨fun same => ?_, (nodup_bendsOf elements).sublist
          ((bends_sublist_bendsOf kept hs).map _)⟩
        obtain ⟨u, hu, same⟩ := List.mem_map.1 same
        exact (ref_ne_of_mem_bends kept hs hu).1 same
      exact names.isChain
    · -- before the finish comes a bend
      intro last hlast finish hfinish
      rw [List.map_cons, hb, List.map_cons, List.getLast?_cons_cons, ← List.map_cons, ← hb] at hlast
      obtain ⟨u, hu, rfl⟩ := List.mem_map.1 (List.mem_of_getLast? hlast)
      obtain rfl : s.finish.ref = finish := by simpa using hfinish
      exact (ref_ne_of_mem_bends kept hs hu).2

omit hs

/-- The repetitions in a row in a kept way are its bare loops. -/
theorem countP_stretches :
    (stretchesOf elements w).countP Stretch.isBareLoop = repeats (knownRefs elements w.1.refs) := by
  have along : repeats ((walk (stretchesOf elements w)).map (·.ref)) =
      (stretchesOf elements w).countP Stretch.isBareLoop :=
    repeats_walk (isChain_stretches _) fun s hs => repeats_of_mem_stretchesOf kept hs
  rw [← along, walk_stretchesOf kept, map_ref_vertices]

end KeptWays

/-! ## Edges -/

/-- The edge is where a kept way leaves the node with the name `ref`, visits other nodes, and returns. -/
structure ComesBack (elements : List Element) (map : RoadMap Float) (w : Way × String) (s : Segment Float) (ref : Int)
    (visited : List Int) : Prop where
  /-- After the missing nodes are left out, the way names these nodes in a row. -/
  stretch : ref :: visited ++ [ref] <:+: knownRefs elements w.1.refs
  visits : visited ≠ []
  /-- The ways for cars name each of the visited nodes once, all in all. -/
  once : ∀ v ∈ visited, v ≠ ref ∧ (drivableRefs elements).count v = 1
  place : map.position? s.ends.start = lastPosition? elements ref
  bends : s.bends.map some = visited.map (lastPosition? elements)
  access : s.access = Tags.access w.1.tags w.2

/-- The ways explain which edges of the map are loops. -/
structure ExplainsLoops (elements : List Element) (map : RoadMap Float) : Prop where
  /-- There are as many bare loops as there are repetitions in a row in the kept ways. -/
  bare : map.segments.countP (·.any Segment.isBareLoop) =
    ((keptWays elements).map fun w => repeats (knownRefs elements w.1.refs)).sum
  /-- Way by way, the bare loops are the repetitions, and every other loop is where the way comes back. -/
  ways : ∃ blocks, map.segments = blocks.flatten.map some ∧ List.Forall₂ (fun w block =>
    block.countP Segment.isBareLoop = repeats (knownRefs elements w.1.refs) ∧
      ∀ s ∈ block, s.ends.start = s.ends.finish → s.bends ≠ [] → ∃ ref visited, ComesBack elements map w s ref visited)
    (keptWays elements) blocks
  /-- Without repetitions in a row there are no bare loops. -/
  none : (∀ w ∈ keptWays elements, (knownRefs elements w.1.refs).IsChain (· ≠ ·)) →
    ∀ s, some s ∈ map.segments → s.isBareLoop = false

section Edges

variable {elements : List Element} {w : Way × String} {s : Stretch} {plot : Plot}

theorem isBareLoop_segment (fits : (orderOf elements).length ≤ UInt32.size) (kept : w ∈ keptWays elements)
    (hs : s ∈ stretchesOf elements w) (access : Access) :
    (s.segment (orderOf elements) access).isBareLoop = s.isBareLoop := by
  obtain ⟨start, finish⟩ := ends_mem_orderOf kept hs
  simp [Segment.isBareLoop, Stretch.isBareLoop, Stretch.segment, nodeOf_inj fits start finish]

theorem countP_blockOf (fits : (orderOf elements).length ≤ UInt32.size) (kept : w ∈ keptWays elements) :
    (blockOf elements w).countP Segment.isBareLoop = repeats (knownRefs elements w.1.refs) := by
  rw [blockOf_eq, List.countP_map, ← countP_stretches kept]
  exact List.countP_congr fun s hs => by rw [Function.comp_apply, isBareLoop_segment fits kept hs]

/-- A stretch with bends whose ends have one node comes back to where it starts. -/
theorem comesBack_segment (follows : plot.Follows (orderOf elements)) (fits : (orderOf elements).length ≤ UInt32.size)
    (kept : w ∈ keptWays elements) (hs : s ∈ stretchesOf elements w) (same : s.start.ref = s.finish.ref)
    (bent : s.bends ≠ []) : ComesBack elements plot.draft.build w
      (s.segment (orderOf elements) (courseOf elements w).road.access) s.start.ref (s.bends.map (·.ref)) := by
  have part : s.start :: s.trail <:+: (courseOf elements w).vertices := by
    rw [← walk_stretchesOf kept]
    exact isInfix_walk (isChain_stretches _) hs
  constructor
  case stretch =>
    have names := part.map (·.ref)
    rw [map_ref_vertices, Stretch.trail, List.map_cons, List.map_append, List.map_singleton, ← same,
      ← List.cons_append] at names
    exact names
  case visits => simpa using bent
  case once =>
    rw [List.forall_mem_map]
    exact fun v hv => ⟨(ref_ne_of_mem_bends kept hs hv).1,
      (count_of_mem_bendsOf ((bends_sublist_bendsOf kept hs).subset hv)).1⟩
  case place => exact (follows.placed fits (mem_cut_courses.2 ⟨w, kept, hs⟩)).1
  case bends =>
    rw [Stretch.segment, List.map_map, List.map_map]
    refine List.map_congr_left fun v hv => ?_
    have on : v ∈ (courseOf elements w).vertices :=
      part.subset (List.mem_cons_of_mem _ (List.mem_append_left _ hv))
    exact (lastPosition?_of_mem_locate elements w.1.refs on).symm
  case access => rfl

end Edges

/-- **Loops are explained by the ways**: every extract has a map, and the ways explain its loops. -/
theorem roadMap_explainsLoops (elements : List Element) : ∃ map notices, roadMap elements = .ok (map, notices) ∧
    (map.Fits → ExplainsLoops elements map) := by
  obtain ⟨plot, notices, made, follows, segments⟩ := roadMap_eq elements
  refine ⟨_, notices, made, fun fits => ?_⟩
  have nodes := fits.nodes
  rw [Draft.nodeCount_build, follows.size_positions] at nodes
  have edges : plot.draft.build.segments = ((keptWays elements).map (blockOf elements)).flatten.map some := by
    rw [Draft.segments_build (Draft.size_segments_le fits), segments_eq segments]
    rfl
  have count : plot.draft.build.segments.countP (·.any Segment.isBareLoop) =
      ((keptWays elements).map fun w => repeats (knownRefs elements w.1.refs)).sum := by
    rw [edges, List.countP_map, List.countP_flatten, List.map_map]
    exact congrArg List.sum (List.map_congr_left fun w kept => countP_blockOf (Nat.le_of_lt nodes) kept)
  constructor
  case bare => exact count
  case ways =>
    refine ⟨_, edges, ?_⟩
    rw [List.forall₂_map_right_iff, List.forall₂_same]
    refine fun w kept => ⟨countP_blockOf (Nat.le_of_lt nodes) kept, fun t ht loop bent => ?_⟩
    rw [blockOf_eq] at ht
    obtain ⟨s, hs, rfl⟩ := List.mem_map.1 ht
    obtain ⟨start, finish⟩ := ends_mem_orderOf kept hs
    have same : s.start.ref = s.finish.ref := (nodeOf_inj (Nat.le_of_lt nodes) start finish).1 loop
    exact ⟨_, _, comesBack_segment follows (Nat.le_of_lt nodes) kept hs same fun straight => bent (by
      rw [Stretch.segment, straight, List.map_nil])⟩
  case none =>
    intro apart s hs
    have zero : ((keptWays elements).map fun w => repeats (knownRefs elements w.1.refs)).sum = 0 := by
      rw [List.sum_eq_zero_iff, List.forall_mem_map]
      exact fun w kept => repeats_eq_zero_iff.2 (apart w kept)
    rw [zero, List.countP_eq_zero] at count
    simpa using count (some s) hs

/-- A lane that names its end twice, with a missing node in between. From its end a round leads back there, and from its
start another one, whose only corner is given twice in a row. -/
def laneWithRounds : List Element :=
  [.node 1 ⟨0, 0⟩, .node 2 ⟨0, 10000⟩, .node 3 ⟨10000, 10000⟩, .node 4 ⟨10000, 20000⟩, .node 5 ⟨20000, 20000⟩,
    .way ⟨10, [1, 2, 99, 2], [("highway", "residential")]⟩, .way ⟨11, [2, 3, 4, 2], [("highway", "service")]⟩,
    .way ⟨12, [4, 5, 5, 5], [("highway", "footway")]⟩, .way ⟨13, [1, 5, 5, 1], [("highway", "service")]⟩]

theorem roadMap_explainsLoops_laneWithRounds : ∃ map notices, roadMap laneWithRounds = .ok (map, notices) ∧ map.Fits ∧
    ExplainsLoops laneWithRounds map := by
  obtain ⟨map, notices, made, explains⟩ := roadMap_explainsLoops laneWithRounds
  have fits : map.Fits := fits_of_roadMap made (by decide +kernel)
  exact ⟨map, notices, made, fits, explains fits⟩

end OpenStreetMap

end Roadside
