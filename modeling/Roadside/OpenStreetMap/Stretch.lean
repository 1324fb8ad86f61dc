import Roadside.Plane

/-!
# Cutting a line into stretches

A line through vertices is cut at some of them; the vertices between two cuts become the bends of a stretch.

* **Nothing is lost, repeated or reordered**: the stretches, written one after the other, are the line
  (`flatMap_trail_stretches`).
* **No stretch runs through a cut** (`isCut_of_mem_bends`).
-/

namespace Roadside.OpenStreetMap

/-- A node of a line, with its position. -/
structure Vertex where
  ref : Int
  position : Point Float
  deriving DecidableEq

/-- A part of a line between two cuts. -/
structure Stretch where
  start : Vertex
  bends : List Vertex
  finish : Vertex
  deriving DecidableEq

namespace Stretch

/-- The vertices of a stretch without its start. -/
def trail (s : Stretch) : List Vertex := s.bends ++ [s.finish]

/-- The stretch with one more bend, right after its start. -/
def bendFirst (v : Vertex) (s : Stretch) : Stretch := { s with bends := v :: s.bends }

end Stretch

/-- The stretches of the line from `start` on, cut at the last vertex and at every vertex that `isCut` picks. -/
def stretchesFrom (isCut : Vertex → Bool) (start : Vertex) : List Vertex → List Stretch
  | [] => []
  | v :: rest =>
    if rest.isEmpty || isCut v then ⟨start, [], v⟩ :: stretchesFrom isCut v rest
    else (stretchesFrom isCut start rest).modifyHead (.bendFirst v)

/-- The stretches of a line; a line of fewer than two vertices has none. -/
def stretches (isCut : Vertex → Bool) : List Vertex → List Stretch
  | [] => []
  | start :: rest => stretchesFrom isCut start rest

variable {isCut : Vertex → Bool}

theorem modifyHead_ne_nil {α : Type} {f : α → α} : ∀ {l : List α}, l ≠ [] → l.modifyHead f ≠ []
  | [], h => h
  | _ :: _, _ => by simp

/-- A line that goes on has a stretch. -/
theorem stretchesFrom_ne_nil : ∀ {start : Vertex} {rest : List Vertex}, rest ≠ [] →
    stretchesFrom isCut start rest ≠ []
  | _, [], h => absurd rfl h
  | start, v :: rest, _ => by
    unfold stretchesFrom
    split
    · simp
    · next h => exact modifyHead_ne_nil (stretchesFrom_ne_nil (by simp_all))

theorem flatMap_trail_modifyHead {v : Vertex} : ∀ {l : List Stretch}, l ≠ [] →
    (l.modifyHead (.bendFirst v)).flatMap Stretch.trail = v :: l.flatMap Stretch.trail
  | [], h => absurd rfl h
  | _ :: _, _ => rfl

theorem flatMap_trail_stretchesFrom : ∀ {start : Vertex} {rest : List Vertex},
    (stretchesFrom isCut start rest).flatMap Stretch.trail = rest
  | _, [] => rfl
  | start, v :: rest => by
    unfold stretchesFrom
    split
    · rw [List.flatMap_cons, flatMap_trail_stretchesFrom]
      rfl
    · next h =>
      rw [flatMap_trail_modifyHead (stretchesFrom_ne_nil (by simp_all)), flatMap_trail_stretchesFrom]

/-- The trails of the stretches make up the line, less the vertex where it starts. -/
theorem flatMap_trail_stretches (line : List Vertex) : (stretches isCut line).flatMap Stretch.trail = line.tail := by
  cases line with
  | nil => rfl
  | cons start rest => exact flatMap_trail_stretchesFrom

theorem isCut_of_mem_bendsFrom : ∀ {start : Vertex} {rest : List Vertex} {s : Stretch} {v : Vertex},
    s ∈ stretchesFrom isCut start rest → v ∈ s.bends → isCut v = false
  | _, [], _, _, hs, _ => by simp [stretchesFrom] at hs
  | start, w :: rest, s, v, hs, hv => by
    unfold stretchesFrom at hs
    split at hs
    · rcases List.mem_cons.1 hs with rfl | hs
      · simp at hv
      · exact isCut_of_mem_bendsFrom hs hv
    · next h =>
      cases hl : stretchesFrom isCut start rest with
      | nil => simp [hl] at hs
      | cons t more =>
        rw [hl, List.modifyHead_cons, List.mem_cons] at hs
        rcases hs with rfl | hs
        · rcases List.mem_cons.1 hv with rfl | hv
          · simp_all
          · exact isCut_of_mem_bendsFrom (hl ▸ List.mem_cons_self) hv
        · exact isCut_of_mem_bendsFrom (hl ▸ List.mem_cons_of_mem t hs) hv

/-- No stretch runs through a cut. -/
theorem isCut_of_mem_bends {line : List Vertex} {s : Stretch} {v : Vertex} (hs : s ∈ stretches isCut line)
    (hv : v ∈ s.bends) : isCut v = false := by
  cases line with
  | nil => simp [stretches] at hs
  | cons start rest => exact isCut_of_mem_bendsFrom hs hv

end Roadside.OpenStreetMap
