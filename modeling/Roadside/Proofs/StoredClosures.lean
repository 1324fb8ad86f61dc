import Roadside.Proofs.Locality

/-!
# Closing roads on the map

Roads can be closed in two ways. Whoever asks for directions says that they are shut, and the map stays as it is; or the
directions in which edges are open are cleared on the map, and it is asked under its own access.

* **Shutting one direction after the other** leaves each edge open as it was before and is not named, and leaves the
  rest of the map alone (`isShut_shutAll`).
* **A direction is open on the map if it was and is not named** (`IsShut.allows_eq`).
* **Both ways come to the same** (`shutAll_answersAlike`) for every survey and for all directions.
-/

namespace Roadside

variable {K : Type}

/-! ## The access of one edge -/

namespace Access

/-- The access that is left when a direction is shut. -/
def shut (a : Access) : Travel → Access
  | .forward => { a with forward := false }
  | .backward => { a with backward := false }

/-- The access that is left to an edge when those of its directions are shut that are named. -/
def shutIn (a : Access) (edge : EdgeId) (closed : List (EdgeId × Travel)) : Access :=
  ⟨a.forward && !closed.contains (edge, .forward), a.backward && !closed.contains (edge, .backward)⟩

theorem allows_shut {a : Access} {t u : Travel} : (a.shut t).allows u = true ↔ u ≠ t ∧ a.allows u = true := by
  cases t <;> cases u <;> simp [shut, allows]

theorem allows_shutIn {a : Access} {edge : EdgeId} {closed : List (EdgeId × Travel)} {t : Travel} :
    (a.shutIn edge closed).allows t = true ↔ (edge, t) ∉ closed ∧ a.allows t = true := by
  cases t <;> simp [shutIn, allows, and_comm]

@[simp] theorem shutIn_nil (a : Access) (edge : EdgeId) : a.shutIn edge [] = a := by
  ext t
  rw [Bool.eq_iff_iff, allows_shutIn]
  simp

/-- The direction that is named first is shut first, if it is one of the edge. -/
theorem shutIn_cons (a : Access) (edge named : EdgeId) (t : Travel) (closed : List (EdgeId × Travel)) :
    a.shutIn edge ((named, t) :: closed) = (if named = edge then a.shut t else a).shutIn edge closed := by
  ext u
  rw [Bool.eq_iff_iff, allows_shutIn, allows_shutIn, List.mem_cons, Prod.mk.injEq, not_or]
  by_cases here : named = edge
  · rw [if_pos here, allows_shut]
    grind
  · rw [if_neg here]
    grind

end Access

/-! ## Clearing access on the map -/

namespace RoadMap

/-- The map with a direction of an edge shut. An edge that it does not have may be named, to no effect. -/
def shut (map : RoadMap K) (edge : EdgeId) (travel : Travel) : RoadMap K :=
  { map with access := map.access.modify edge.index (·.shut travel) }

/-- The map with directions of edges shut, one after the other. -/
def shutAll (map : RoadMap K) (closed : List (EdgeId × Travel)) : RoadMap K :=
  closed.foldl (fun map (edge, travel) => map.shut edge travel) map

/-- The second map is the first one with the named directions shut. -/
structure IsShut (closed : List (EdgeId × Travel)) (map map' : RoadMap K) : Prop where
  /-- Nothing but access has changed. -/
  rest : map' = { map with access := map'.access }
  access : ∀ edge : EdgeId, map'.access[edge.index]? = map.access[edge.index]?.map (·.shutIn edge closed)

variable {map map' : RoadMap K} {closed : List (EdgeId × Travel)}

theorem getElem?_access_shut (map : RoadMap K) (named edge : EdgeId) (t : Travel) :
    (map.shut named t).access[edge.index]? =
      map.access[edge.index]?.map fun a => if named = edge then a.shut t else a := by
  rw [shut, Array.getElem?_modify]
  by_cases here : named = edge
  · simp [here]
  · simp [here, Ident.index_inj]

/-- What was shut by the first step and what is shut by the others is shut by all of them. -/
theorem IsShut.cons {named : EdgeId} {t : Travel} (h : (map.shut named t).IsShut closed map') :
    map.IsShut ((named, t) :: closed) map' where
  rest := h.rest
  access edge := by
    rw [h.access, getElem?_access_shut, Option.map_map]
    simp only [Access.shutIn_cons, Function.comp_def]

theorem isShut_shutAll (map : RoadMap K) (closed : List (EdgeId × Travel)) :
    map.IsShut closed (map.shutAll closed) := by
  induction closed generalizing map with
  | nil => exact ⟨rfl, fun edge => by simp [shutAll]⟩
  | cons named closed ih => exact (ih (map.shut named.1 named.2)).cons

namespace IsShut

variable (h : map.IsShut closed map')
include h

theorem view_eq : map'.view = map.view := by rw [h.rest]; rfl

theorem allows_eq : map'.allows = map.allows.shut closed := by
  funext edge t
  rw [allows, h.access, Option.any_map, Openness.shut, allows]
  cases map.access[edge.index]? with
  | none => simp
  | some a =>
    rw [Bool.eq_iff_iff]
    simp [Access.allows_shutIn]

theorem survey_eq (node : NodeId) :
    survey map'.view map'.allows node = survey map.view (map.allows.shut closed) node := by
  rw [h.view_eq, h.allows_eq]

end IsShut

end RoadMap

/-- **Both ways of closing roads come to the same**: whatever directions of whatever edges are named, and however often,
asking a map with these shut is asking the map on which they are cleared, for every node, rule and query. -/
theorem shutAll_answersAlike [Scalar K] (map : RoadMap K) (closed : List (EdgeId × Travel)) :
    map.IsShut closed (map.shutAll closed) ∧ ∀ node,
      survey map.view (map.allows.shut closed) node =
        survey (map.shutAll closed).view (map.shutAll closed).allows node ∧
      ∀ (rule : SideRule K) (query : Point K), resolve map.view (map.allows.shut closed) rule node query =
        resolve (map.shutAll closed).view (map.shutAll closed).allows rule node query := by
  have isShut := map.isShut_shutAll closed
  refine ⟨isShut, fun node => ?_⟩
  have surveys := (isShut.survey_eq node).symm
  exact ⟨surveys, resolve_congr surveys⟩

/-- In the tangle the loop is shut, twice over, an edge that is missing is named, and the first edge is made one-way. -/
example : ((mapOf tangle).shutAll [(⟨1⟩, .forward), (⟨7⟩, .backward), (⟨0⟩, .forward), (⟨1⟩, .forward)]).access =
    #[.backwardOnly, .closed, .closed] := by decide +kernel

end Roadside
