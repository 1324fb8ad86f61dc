import Mathlib.Data.List.Chain
import Roadside.OpenStreetMap.Stretch

/-!
# The stretches of a line follow one another

* **Each stretch starts where the one before it ends** (`isChain_stretches`), which is at a cut
  (`isChain_goesOn_stretches`), and the first one where the line does (`start_head?_stretches`).
* **A line of two vertices has a stretch** (`stretches_ne_nil`), and stretches end at vertices of the line
  (`ends_mem_of_mem_stretches`).
-/

namespace Roadside.OpenStreetMap

variable {isCut : Vertex → Bool}

/-- A stretch that is not cut off at the next vertex bends there. -/
theorem mem_modifyHead_bendFirst {v : Vertex} {s : Stretch} : ∀ {l : List Stretch},
    s ∈ l.modifyHead (.bendFirst v) → ∃ t ∈ l, t.start = s.start ∧ t.finish = s.finish
  | [], h => by simp at h
  | t :: l, h => by
    rcases List.mem_cons.1 h with rfl | h
    · exact ⟨t, List.mem_cons_self, rfl, rfl⟩
    · exact ⟨s, List.mem_cons_of_mem t h, rfl, rfl⟩

/-- The second stretch goes on where the first one was cut off. -/
def GoesOn (isCut : Vertex → Bool) (s t : Stretch) : Prop := s.finish = t.start ∧ isCut s.finish = true

theorem isChain_modifyHead_bendFirst {v : Vertex} : ∀ {l : List Stretch},
    l.IsChain (GoesOn isCut) → (l.modifyHead (.bendFirst v)).IsChain (GoesOn isCut)
  | [], _ => .nil
  | _ :: _, h => List.isChain_cons.2 ⟨fun t ht => (List.isChain_cons.1 h).1 t ht, (List.isChain_cons.1 h).2⟩

theorem start_head?_stretchesFrom : ∀ {start : Vertex} {rest : List Vertex} {s : Stretch},
    (stretchesFrom isCut start rest).head? = some s → s.start = start
  | _, [], _, h => by simp [stretchesFrom] at h
  | start, v :: rest, s, h => by
    unfold stretchesFrom at h
    split at h
    · obtain rfl := Option.some.inj h
      rfl
    · rw [List.head?_modifyHead, Option.map_eq_some_iff] at h
      obtain ⟨t, ht, rfl⟩ := h
      have : t.start = start := start_head?_stretchesFrom ht
      exact this

theorem isChain_goesOn_stretchesFrom : ∀ {start : Vertex} {rest : List Vertex},
    (stretchesFrom isCut start rest).IsChain (GoesOn isCut)
  | _, [] => .nil
  | start, v :: rest => by
    unfold stretchesFrom
    split
    case isTrue cut =>
      refine List.isChain_cons.2 ⟨fun t ht => ⟨(start_head?_stretchesFrom ht).symm, ?_⟩, isChain_goesOn_stretchesFrom⟩
      rw [Bool.or_eq_true, List.isEmpty_iff] at cut
      rcases cut with rfl | cut
      · cases ht
      · exact cut
    case isFalse => exact isChain_modifyHead_bendFirst isChain_goesOn_stretchesFrom

theorem ends_mem_of_mem_stretchesFrom : ∀ {start : Vertex} {rest : List Vertex} {s : Stretch},
    s ∈ stretchesFrom isCut start rest → s.start ∈ start :: rest ∧ s.finish ∈ rest
  | _, [], _, h => by simp [stretchesFrom] at h
  | start, v :: rest, s, h => by
    unfold stretchesFrom at h
    split at h
    · rcases List.mem_cons.1 h with rfl | h
      · exact ⟨List.mem_cons_self, List.mem_cons_self⟩
      · obtain ⟨hs, hf⟩ := ends_mem_of_mem_stretchesFrom h
        exact ⟨List.mem_cons_of_mem start hs, List.mem_cons_of_mem v hf⟩
    · obtain ⟨t, ht, start, finish⟩ := mem_modifyHead_bendFirst h
      obtain ⟨hs, hf⟩ := ends_mem_of_mem_stretchesFrom ht
      rw [← start, ← finish]
      exact ⟨by grind, List.mem_cons_of_mem v hf⟩

theorem isChain_goesOn_stretches (line : List Vertex) : (stretches isCut line).IsChain (GoesOn isCut) := by
  cases line with
  | nil => exact .nil
  | cons start rest => exact isChain_goesOn_stretchesFrom

/-- The stretches of a line follow one another. -/
theorem isChain_stretches (line : List Vertex) :
    (stretches isCut line).IsChain fun s t => s.finish = t.start :=
  (isChain_goesOn_stretches line).imp fun _ _ => And.left

/-- The first stretch of a line starts where the line does. -/
theorem start_head?_stretches {line : List Vertex} {s : Stretch} (h : (stretches isCut line).head? = some s) :
    line.head? = some s.start := by
  cases line with
  | nil => simp [stretches] at h
  | cons start rest => rw [start_head?_stretchesFrom h, List.head?_cons]

theorem stretches_ne_nil {line : List Vertex} (h : 2 ≤ line.length) : stretches isCut line ≠ [] := by
  match line, h with
  | _ :: v :: rest, _ => exact stretchesFrom_ne_nil (List.cons_ne_nil v rest)

/-- The stretches of a line start and end at its vertices. -/
theorem ends_mem_of_mem_stretches {line : List Vertex} {s : Stretch} (h : s ∈ stretches isCut line) :
    s.start ∈ line ∧ s.finish ∈ line := by
  cases line with
  | nil => simp [stretches] at h
  | cons start rest =>
    obtain ⟨hs, hf⟩ := ends_mem_of_mem_stretchesFrom h
    exact ⟨hs, List.mem_cons_of_mem start hf⟩

end Roadside.OpenStreetMap
