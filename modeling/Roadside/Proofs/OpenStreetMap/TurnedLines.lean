import Roadside.Proofs.OpenStreetMap.Corners

/-!
# A line read backward

* **Stretches are told by what they are like** (`stretches_walk`): if stretches go on where the ones before them were
  cut off, and none runs through a cut, then they are the stretches of the line that they lead along.
* **Reading a line backward** turns its stretches around and lists them the other way round (`stretches_reverse`).
-/

namespace Roadside.OpenStreetMap

variable {isCut : Vertex → Bool}

/-- The stretch from its finish to its start. -/
def Stretch.reverse (s : Stretch) : Stretch := ⟨s.finish, s.bends.reverse, s.start⟩

/-- The vertices on a walk along stretches: where it starts, and then the trail of each stretch. -/
def walk : List Stretch → List Vertex
  | [] => []
  | s :: more => s.start :: (s :: more).flatMap Stretch.trail

theorem walk_concat {l : List Stretch} (h : l ≠ []) (s : Stretch) : walk (l ++ [s]) = walk l ++ s.trail := by
  cases l with
  | nil => exact absurd rfl h
  | cons t more => simp [walk]

theorem walk_cons_cons {s t : Stretch} (joined : s.finish = t.start) (more : List Stretch) :
    walk (s :: t :: more) = s.start :: (s.bends ++ walk (t :: more)) := by
  simp [walk, Stretch.trail, joined]

/-! ## Stretches are told by what they are like -/

/-- A line that does not run through a cut before its first one, or its end, starts with one stretch up to there. -/
theorem stretchesFrom_bends {start finish : Vertex} {bends rest : List Vertex}
    (uncut : ∀ v ∈ bends, isCut v = false) (cut : rest = [] ∨ isCut finish = true) :
    stretchesFrom isCut start (bends ++ finish :: rest) =
      ⟨start, bends, finish⟩ :: stretchesFrom isCut finish rest := by
  induction bends with
  | nil =>
    rw [List.nil_append, stretchesFrom, if_pos]
    simpa using cut
  | cons v bends ih =>
    rw [List.forall_mem_cons] at uncut
    rw [List.cons_append, stretchesFrom, if_neg (by simp [uncut.1]), ih uncut.2]
    rfl

/-- Stretches that go on where they were cut off, and run through no cut, are those of the line that they lead along. -/
theorem stretches_walk {l : List Stretch} (chain : l.IsChain (GoesOn isCut))
    (uncut : ∀ s ∈ l, ∀ v ∈ s.bends, isCut v = false) : stretches isCut (walk l) = l := by
  induction l with
  | nil => rfl
  | cons s more ih =>
    rw [List.forall_mem_cons] at uncut
    cases more with
    | nil =>
      rw [walk, stretches, List.flatMap_cons, List.flatMap_nil, List.append_nil, Stretch.trail,
        stretchesFrom_bends uncut.1 (.inl rfl), stretchesFrom]
    | cons t more =>
      obtain ⟨⟨joined, cut⟩, chain⟩ := List.isChain_cons_cons.1 chain
      have rest := ih chain uncut.2
      rw [walk, stretches, ← joined] at rest
      rw [walk_cons_cons joined, walk, stretches, ← joined, stretchesFrom_bends uncut.1 (.inr cut), rest]

/-- A line of two vertices is what its stretches lead along. -/
theorem walk_stretches {line : List Vertex} (long : 2 ≤ line.length) : walk (stretches isCut line) = line := by
  cases h : stretches isCut line with
  | nil => exact absurd h (stretches_ne_nil long)
  | cons s more => rw [walk, ← eq_of_stretches_eq_cons h]

/-- The stretches of a kept way lead along all of it. -/
theorem walk_stretchesOf {elements : List Element} {w : Way × String} (kept : w ∈ keptWays elements) :
    walk (stretchesOf elements w) = (courseOf elements w).vertices := walk_stretches (length_vertices kept)

/-! ## Reading backward -/

/-- Walking back along stretches that follow one another is walking along them the other way round. -/
theorem walk_reverse {l : List Stretch} (chain : l.IsChain (GoesOn isCut)) :
    walk (l.map Stretch.reverse).reverse = (walk l).reverse := by
  induction l with
  | nil => rfl
  | cons s more ih =>
    cases more with
    | nil => simp [walk, Stretch.trail, Stretch.reverse]
    | cons t more =>
      obtain ⟨⟨joined, -⟩, chain⟩ := List.isChain_cons_cons.1 chain
      rw [List.map_cons, List.reverse_cons, walk_concat (by simp), ih chain, walk_cons_cons joined]
      simp [Stretch.trail, Stretch.reverse]

/-- Read backward, a line has its stretches turned around, in reverse order. -/
theorem stretches_reverse (isCut : Vertex → Bool) (line : List Vertex) :
    stretches isCut line.reverse = ((stretches isCut line).map Stretch.reverse).reverse := by
  match line with
  | [] | [_] => rfl
  | u :: v :: rest =>
    have chain : (stretches isCut (u :: v :: rest)).IsChain (GoesOn isCut) := isChain_goesOn_stretches _
    have back := walk_reverse chain
    rw [walk_stretches (by simp)] at back
    rw [← back]
    refine stretches_walk ?_ ?_
    · rw [List.isChain_reverse, List.isChain_map]
      refine chain.imp fun s t goesOn => ⟨goesOn.1.symm, ?_⟩
      change isCut t.start = true
      rw [← goesOn.1, goesOn.2]
    · intro s hs w hw
      obtain ⟨t, ht, rfl⟩ := List.mem_map.1 (List.mem_reverse.1 hs)
      exact isCut_of_mem_bends ht (List.mem_reverse.1 hw)

end Roadside.OpenStreetMap
