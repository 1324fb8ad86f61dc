import Mathlib.Data.List.Flatten
import Mathlib.Data.List.Perm.Basic
import Roadside.Proofs.OpenStreetMap.Lines
import Roadside.Proofs.OpenStreetMap.KeptWays
import Roadside.Proofs.OpenStreetMap.Numbering

/-!
# Corners and bends

The vertices of a line are its corners, where stretches start and end, and the bends between them.

* **The vertices of a line** are its corners and its bends (`perm_corners_bends`), and leaving out the bends leaves the
  corners in order (`filter_line`).
* **No bend is a corner anywhere**: the roads run through a bend once only, so it is not a corner of the same or of
  another kept way (`ref_not_mem_cornersOf`).
* **Nodes are numbered by corners**: the order in which vertices become nodes is that in which the corners of the kept
  ways name them (`map_ref_orderOf`).
-/

namespace Roadside.OpenStreetMap

/-! ## One line -/

/-- The vertices at which stretches that follow one another start and end. -/
def corners : List Stretch → List Vertex
  | [] => []
  | s :: more => s.start :: (s :: more).map (·.finish)

section Line

variable {isCut : Vertex → Bool} {line : List Vertex}

/-- A line goes from the start of its first stretch through all trails. -/
theorem eq_of_stretches_eq_cons {s : Stretch} {more : List Stretch} (h : stretches isCut line = s :: more) :
    line = s.start :: (s :: more).flatMap Stretch.trail := by
  obtain ⟨rest, rfl⟩ := List.head?_eq_some_iff.1 (start_head?_stretches (by rw [h, List.head?_cons]))
  rw [← h, flatMap_trail_stretches, List.tail_cons]

/-- The vertices of a line are its corners and its bends. -/
theorem perm_corners_bends (long : 2 ≤ line.length) :
    line.Perm (corners (stretches isCut line) ++ (stretches isCut line).flatMap (·.bends)) := by
  cases h : stretches isCut line with
  | nil => exact absurd h (stretches_ne_nil long)
  | cons s more =>
    have trails : ((s :: more).map (·.finish) ++ (s :: more).flatMap (·.bends)).Perm
        ((s :: more).flatMap Stretch.trail) := by
      rw [List.map_eq_flatMap]
      exact List.perm_append_comm.trans (List.flatMap_append_perm (s :: more) (·.bends) fun t => [t.finish])
    rw [eq_of_stretches_eq_cons h, corners, List.cons_append]
    exact trails.symm.cons s.start

/-- Leaving out the bends leaves the corners in order. -/
theorem filter_line (long : 2 ≤ line.length) {p : Vertex → Bool}
    (corner : ∀ v ∈ corners (stretches isCut line), p v = true)
    (bend : ∀ v ∈ (stretches isCut line).flatMap (·.bends), p v = false) :
    line.filter p = corners (stretches isCut line) := by
  cases h : stretches isCut line with
  | nil => exact absurd h (stretches_ne_nil long)
  | cons s more =>
    simp only [h, corners, List.forall_mem_cons, List.forall_mem_map, List.mem_flatMap] at corner bend
    have trail : ∀ t ∈ s :: more, t.trail.filter p = [t.finish] := by
      intro t ht
      have bends : t.bends.filter p = [] := List.filter_eq_nil_iff.2 fun v hv => by simp [bend v ⟨t, ht, hv⟩]
      have finish : p t.finish = true := by
        rcases List.mem_cons.1 ht with rfl | ht
        · exact corner.2.1
        · exact corner.2.2 t ht
      rw [Stretch.trail, List.filter_append, bends, List.nil_append, List.filter_cons_of_pos finish, List.filter_nil]
    rw [eq_of_stretches_eq_cons h, List.filter_cons_of_pos corner.1, List.filter_flatMap, List.flatMap_congr trail,
      ← List.map_eq_flatMap, corners]

theorem mem_line_iff (long : 2 ≤ line.length) {v : Vertex} : v ∈ line ↔
    v ∈ corners (stretches isCut line) ∨ v ∈ (stretches isCut line).flatMap (·.bends) := by
  rw [(perm_corners_bends long).mem_iff, List.mem_append]

/-- The line starts and ends at corners. -/
theorem ends_mem_corners (long : 2 ≤ line.length) {v : Vertex} (h : line.head? = some v ∨ line.getLast? = some v) :
    v ∈ corners (stretches isCut line) := by
  cases hs : stretches isCut line with
  | nil => exact absurd hs (stretches_ne_nil long)
  | cons s more =>
    rw [eq_of_stretches_eq_cons hs] at h
    rw [corners]
    rcases h with h | h
    · obtain rfl : s.start = v := by simpa using h
      exact List.mem_cons_self
    · rw [List.getLast?_cons, Option.some.injEq] at h
      cases last : ((s :: more).flatMap Stretch.trail).getLast? with
      | none =>
        rw [last, Option.getD_none] at h
        exact h ▸ List.mem_cons_self
      | some u =>
        rw [last, Option.getD_some] at h
        rw [List.getLast?_flatMap] at last
        obtain ⟨t, ht, finish⟩ := List.exists_of_findSome?_eq_some last
        obtain rfl : t.finish = u := by simpa [Stretch.trail] using finish
        exact h ▸ List.mem_cons_of_mem _ (List.mem_map_of_mem (List.mem_reverse.1 ht))

theorem isCut_or_getLast?_of_mem_stretchesFrom : ∀ {start : Vertex} {rest : List Vertex} {s : Stretch},
    s ∈ stretchesFrom isCut start rest → isCut s.finish = true ∨ rest.getLast? = some s.finish
  | _, [], _, h => by simp [stretchesFrom] at h
  | start, v :: rest, s, h => by
    have later (h : isCut s.finish = true ∨ rest.getLast? = some s.finish) :
        isCut s.finish = true ∨ (v :: rest).getLast? = some s.finish := by
      refine h.imp_right fun last => ?_
      rw [List.getLast?_cons, last, Option.getD_some]
    unfold stretchesFrom at h
    split at h
    case isTrue cut =>
      rcases List.mem_cons.1 h with rfl | h
      · rw [Bool.or_eq_true, List.isEmpty_iff] at cut
        rcases cut with rfl | cut
        · exact .inr rfl
        · exact .inl cut
      · exact later (isCut_or_getLast?_of_mem_stretchesFrom h)
    case isFalse =>
      obtain ⟨t, ht, -, finish⟩ := mem_modifyHead_bendFirst h
      rw [← finish] at later ⊢
      exact later (isCut_or_getLast?_of_mem_stretchesFrom ht)

/-- A corner that is not an end of the line is a cut. -/
theorem isCut_or_end_of_mem_corners {v : Vertex} (h : v ∈ corners (stretches isCut line)) :
    isCut v = true ∨ line.head? = some v ∨ line.getLast? = some v := by
  cases line with
  | nil => simp [stretches, corners] at h
  | cons start rest =>
    cases hs : stretches isCut (start :: rest) with
    | nil => simp [hs, corners] at h
    | cons s more =>
      rw [hs, corners, ← hs, List.mem_cons, List.mem_map] at h
      rcases h with rfl | ⟨t, ht, rfl⟩
      · exact .inr (.inl (start_head?_stretches (by rw [hs, List.head?_cons])))
      · rcases isCut_or_getLast?_of_mem_stretchesFrom ht with cut | last
        · exact .inl cut
        · refine .inr (.inr ?_)
          rw [List.getLast?_cons, last, Option.getD_some]

end Line

/-! ## All kept ways -/

section KeptWays

variable (elements : List Element)

/-- The stretches of a kept way. -/
def stretchesOf (w : Way × String) : List Stretch := stretches (isCrossing elements) (courseOf elements w).vertices

/-- The corners of all kept ways, way by way. -/
def cornersOf : List Vertex := (keptWays elements).flatMap fun w => corners (stretchesOf elements w)

/-- The bends of all kept ways. -/
def bendsOf : List Vertex := (keptWays elements).flatMap fun w => (stretchesOf elements w).flatMap (·.bends)

/-- The known nodes that the ways for cars name, way by way. -/
def drivableRefs : List Int :=
  (elements.filterMap Element.drivable?).flatMap fun w => knownRefs elements w.1.refs

/-- The known nodes that the kept ways name, way by way. -/
def keptRefs : List Int := (keptWays elements).flatMap fun w => knownRefs elements w.1.refs

variable {elements}

theorem keptRefs_sublist : (keptRefs elements).Sublist (drivableRefs elements) := by
  rw [keptRefs, drivableRefs, keptWays]
  exact List.filter_sublist.flatMap _

end KeptWays

/-! ## Counting -/

theorem getD_foldl_tally (refs : List Int) (counts : Std.HashMap Int Nat) (ref : Int) :
    (refs.foldl (fun counts ref => counts.insert ref (counts.getD ref 0 + 1)) counts).getD ref 0 =
      counts.getD ref 0 + refs.count ref := by
  induction refs generalizing counts with
  | nil => rfl
  | cons r refs ih =>
    rw [List.foldl_cons, ih, Std.HashMap.getD_insert, List.count_cons]
    by_cases h : r = ref <;> simp [h]
    omega

theorem getD_tally (refs : List Int) (ref : Int) : (tally refs).getD ref 0 = refs.count ref := by
  rw [tally, getD_foldl_tally]
  simp

/-- A vertex is a crossing iff the ways for cars name it more than once. -/
theorem isCrossing_iff {elements : List Element} {v : Vertex} :
    isCrossing elements v = true ↔ 2 ≤ (drivableRefs elements).count v.ref := by
  have refs : (courses elements).flatMap (fun c => c.vertices.map (·.ref)) = drivableRefs elements := by
    rw [courses_eq, List.flatMap_map, drivableRefs]
    exact List.flatMap_congr fun w _ => map_ref_vertices w
  rw [isCrossing, crossings, refs, getD_tally, decide_eq_true_iff]
  exact Iff.rfl

/-! ## Corners and bends of all kept ways -/

section Counts

variable {elements : List Element} {v : Vertex}

/-- What the kept ways name is what their corners and their bends name. -/
theorem count_keptRefs (ref : Int) : (keptRefs elements).count ref =
    ((cornersOf elements).map (·.ref)).count ref + ((bendsOf elements).map (·.ref)).count ref := by
  have split : ((keptWays elements).flatMap fun w => (courseOf elements w).vertices).Perm
      (cornersOf elements ++ bendsOf elements) := by
    refine List.Perm.trans (List.Perm.flatMap_left _ fun w hw => ?_) (List.flatMap_append_perm _ _ _).symm
    exact perm_corners_bends (length_vertices hw)
  have refs : ((keptWays elements).flatMap fun w => (courseOf elements w).vertices).map (·.ref) =
      keptRefs elements := by
    rw [List.map_flatMap, keptRefs]
    exact List.flatMap_congr fun w _ => map_ref_vertices w
  rw [← refs, (split.map (·.ref)).count_eq, List.map_append, List.count_append]

/-- The ways for cars name a bend once. -/
theorem count_drivableRefs_of_mem_bendsOf (h : v ∈ bendsOf elements) : (drivableRefs elements).count v.ref ≤ 1 := by
  simp only [bendsOf, List.mem_flatMap] at h
  obtain ⟨w, -, s, hs, hv⟩ := h
  have notCrossing : isCrossing elements v = false := isCut_of_mem_bends hs hv
  have := mt isCrossing_iff.2 (Bool.eq_false_iff.1 notCrossing)
  omega

/-- No name of a bend is the name of a corner. -/
theorem ref_not_mem_cornersOf (h : v ∈ bendsOf elements) : v.ref ∉ (cornersOf elements).map (·.ref) := by
  intro corner
  have bend : v.ref ∈ (bendsOf elements).map (·.ref) := List.mem_map_of_mem h
  have once := count_drivableRefs_of_mem_bendsOf h
  have kept : (keptRefs elements).count v.ref ≤ (drivableRefs elements).count v.ref := keptRefs_sublist.count_le v.ref
  -- a corner of the same name would count once more
  rw [count_keptRefs] at kept
  rw [← List.one_le_count_iff] at bend corner
  omega

end Counts

/-! ## The order of corners -/

theorem enroll_of_mem {order : List Vertex} {v : Vertex} (h : v.ref ∈ order.map (·.ref)) : enroll order v = order :=
  if_pos h

/-- Enrolling a stretch that starts where the order knows a vertex is enrolling its finish. -/
theorem enrollEnds_of_mem {order : List Vertex} {s : Stretch} (h : s.start.ref ∈ order.map (·.ref)) :
    enrollEnds order s = enroll order s.finish := by
  rw [enrollEnds, enroll_of_mem h]

theorem foldl_enrollEnds_chain {l : List Stretch} (chain : l.IsChain fun s t => s.finish = t.start)
    {order : List Vertex} (known : ∀ s, l.head? = some s → s.start.ref ∈ order.map (·.ref)) :
    l.foldl enrollEnds order = (l.map (·.finish)).foldl enroll order := by
  induction l generalizing order with
  | nil => rfl
  | cons s more ih =>
    rw [List.foldl_cons, enrollEnds_of_mem (known s rfl), List.map_cons, List.foldl_cons]
    refine ih (List.isChain_cons.1 chain).2 fun t ht => ?_
    rw [← (List.isChain_cons.1 chain).1 t ht]
    exact mem_enroll order s.finish

/-- Enrolling the ends of stretches that follow one another is enrolling their corners. -/
theorem foldl_enrollEnds_eq {l : List Stretch} (chain : l.IsChain fun s t => s.finish = t.start)
    (order : List Vertex) : l.foldl enrollEnds order = (corners l).foldl enroll order := by
  cases l with
  | nil => rfl
  | cons s more =>
    have first : enrollEnds order s = enrollEnds (enroll order s.start) s := by
      rw [enrollEnds_of_mem (mem_enroll order s.start), enrollEnds]
    rw [corners, List.foldl_cons, List.foldl_cons, first, ← List.foldl_cons, foldl_enrollEnds_chain chain]
    rintro _ ⟨⟩
    exact mem_enroll order s.start

theorem orderOf_eq (elements : List Element) : orderOf elements = (cornersOf elements).foldl enroll [] := by
  have all : (cut (courses elements)).map (·.2) = (keptWays elements).flatMap (stretchesOf elements) := by
    rw [cut_courses, List.map_flatMap]
    exact List.flatMap_congr fun w _ => by simp [Function.comp_def, stretchesOf]
  rw [orderOf, all, cornersOf, List.foldl_flatMap, List.foldl_flatMap]
  congr 1
  funext order w
  exact foldl_enrollEnds_eq (isChain_stretches _) order

theorem eraseDups_concat (refs : List Int) (ref : Int) :
    (refs ++ [ref]).eraseDups = if ref ∈ refs then refs.eraseDups else refs.eraseDups ++ [ref] := by
  rw [List.eraseDups_append]
  by_cases h : ref ∈ refs <;> simp [List.cons_removeAll, List.eraseDups_cons, h]

theorem nodup_eraseDups (refs : List Int) : refs.eraseDups.Nodup := by
  induction refs using List.reverseRecOn with
  | nil => exact List.nodup_nil
  | append_singleton refs ref ih =>
    rw [eraseDups_concat]
    split
    case isTrue => exact ih
    case isFalse new =>
      exact List.perm_append_comm.nodup_iff.2 (List.nodup_cons.2 ⟨mt List.mem_eraseDups.1 new, ih⟩)

theorem map_ref_foldl_enroll (vertices : List Vertex) :
    (vertices.foldl enroll []).map (·.ref) = (vertices.map (·.ref)).eraseDups := by
  induction vertices using List.reverseRecOn with
  | nil => rfl
  | append_singleton vertices v ih =>
    rw [List.foldl_append, List.foldl_cons, List.foldl_nil, enroll, ih, List.map_append, List.map_singleton,
      eraseDups_concat]
    by_cases h : v.ref ∈ vertices.map (·.ref)
    · rw [if_pos (List.mem_eraseDups.2 h), if_pos h, ih]
    · rw [if_neg (mt List.mem_eraseDups.1 h), if_neg h, List.map_append, ih, List.map_singleton]

/-- Vertices become nodes in the order in which the corners of the kept ways first name them. -/
theorem map_ref_orderOf (elements : List Element) :
    (orderOf elements).map (·.ref) = ((cornersOf elements).map (·.ref)).eraseDups := by
  rw [orderOf_eq, map_ref_foldl_enroll]

end Roadside.OpenStreetMap
