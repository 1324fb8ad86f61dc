import Roadside.OpenStreetMap.Extract

/-!
# How vertices become nodes

Stretches are drawn one after the other, and a vertex becomes a node when it is first the end of a stretch. So the nodes
are numbered in the order in which the ends of the stretches name them, whatever the map in the making remembers of it:
`enroll` makes that order, and `nodeOf` reads the number of a vertex off it.

* **What a plot remembers** is the order (`Plot.Follows`): taking the node of a vertex enrolls it (`Follows.node`), and
  drawing a stretch enrolls its ends (`Follows.draw`).
* **Drawing never fails** (`Follows.drawAll`), and it adds one segment for each stretch, between the nodes that the whole
  order gives its ends.
-/

namespace Roadside.OpenStreetMap

/-! ## The order of first appearance -/

/-- The order with a vertex at the end, unless one of that name is there already. -/
def enroll (order : List Vertex) (v : Vertex) : List Vertex :=
  if v.ref ∈ order.map (·.ref) then order else order ++ [v]

/-- The order with the ends of a stretch. -/
def enrollEnds (order : List Vertex) (s : Stretch) : List Vertex := enroll (enroll order s.start) s.finish

/-- The node that a name has by its place in the order. -/
def nodeOf (order : List Vertex) (ref : Int) : NodeId := .ofIndex ((order.map (·.ref)).idxOf ref)

/-- The segment that a stretch becomes. -/
def Stretch.segment (s : Stretch) (order : List Vertex) (access : Access) : Segment Float :=
  ⟨⟨nodeOf order s.start.ref, nodeOf order s.finish.ref⟩, access, s.bends.map (·.position)⟩

section Order

variable {order order' : List Vertex} {v : Vertex} {s : Stretch} {ref : Int}

theorem prefix_enroll (order : List Vertex) (v : Vertex) : order <+: enroll order v := by
  unfold enroll
  split
  · exact List.prefix_rfl
  · exact List.prefix_append order [v]

theorem mem_enroll (order : List Vertex) (v : Vertex) : v.ref ∈ (enroll order v).map (·.ref) := by
  unfold enroll
  split
  · assumption
  · simp

theorem prefix_enrollEnds (order : List Vertex) (s : Stretch) : order <+: enrollEnds order s :=
  (prefix_enroll order s.start).trans (prefix_enroll _ s.finish)

theorem mem_grown (h : order <+: order') (mem : ref ∈ order.map (·.ref)) : ref ∈ order'.map (·.ref) :=
  (h.map _).subset mem

theorem start_mem_enrollEnds (order : List Vertex) (s : Stretch) : s.start.ref ∈ (enrollEnds order s).map (·.ref) :=
  mem_grown (prefix_enroll _ s.finish) (mem_enroll order s.start)

theorem finish_mem_enrollEnds (order : List Vertex) (s : Stretch) : s.finish.ref ∈ (enrollEnds order s).map (·.ref) :=
  mem_enroll _ s.finish

theorem prefix_foldl (stretches : List Stretch) (order : List Vertex) : order <+: stretches.foldl enrollEnds order := by
  induction stretches generalizing order with
  | nil => exact List.prefix_rfl
  | cons s stretches ih => exact (prefix_enrollEnds order s).trans (ih _)

/-- Both ends of a drawn stretch are in the order. -/
theorem ends_mem_foldl {stretches : List Stretch} (h : s ∈ stretches) :
    s.start.ref ∈ (stretches.foldl enrollEnds order).map (·.ref) ∧
      s.finish.ref ∈ (stretches.foldl enrollEnds order).map (·.ref) := by
  induction stretches generalizing order with
  | nil => simp at h
  | cons t stretches ih =>
    rw [List.foldl_cons]
    rcases List.mem_cons.1 h with rfl | h
    · have grows := prefix_foldl stretches (enrollEnds order s)
      exact ⟨mem_grown grows (start_mem_enrollEnds order s), mem_grown grows (finish_mem_enrollEnds order s)⟩
    · exact ih h

theorem eq_of_mem_enroll {u : Vertex} (h : u ∈ enroll order v) : u ∈ order ∨ u = v := by
  unfold enroll at h
  split at h
  · exact .inl h
  · simpa using h

/-- Nothing else is in the order. -/
theorem exists_of_mem_foldl {stretches : List Stretch} (h : v ∈ stretches.foldl enrollEnds order) :
    v ∈ order ∨ ∃ s ∈ stretches, v = s.start ∨ v = s.finish := by
  induction stretches generalizing order with
  | nil => exact .inl h
  | cons s stretches ih =>
    rcases ih h with h | ⟨t, ht, h⟩
    · rcases eq_of_mem_enroll h with h | h
      · rcases eq_of_mem_enroll h with h | h
        · exact .inl h
        · exact .inr ⟨s, List.mem_cons_self, .inl h⟩
      · exact .inr ⟨s, List.mem_cons_self, .inr h⟩
    · exact .inr ⟨t, List.mem_cons_of_mem s ht, h⟩

/-- The order only grows, so a name keeps its node. -/
theorem nodeOf_grown (h : order <+: order') (mem : ref ∈ order.map (·.ref)) :
    nodeOf order' ref = nodeOf order ref := by
  obtain ⟨more, rfl⟩ := h
  rw [nodeOf, nodeOf, List.map_append, List.idxOf_append, if_pos mem]

theorem Stretch.segment_grown (h : enrollEnds order s <+: order') (access : Access) :
    s.segment order' access = s.segment (enrollEnds order s) access := by
  rw [segment, segment, nodeOf_grown h (start_mem_enrollEnds order s),
    nodeOf_grown h (finish_mem_enrollEnds order s)]

theorem idxOf_ref_lt (mem : ref ∈ order.map (·.ref)) : (order.map (·.ref)).idxOf ref < order.length := by
  simpa using List.idxOf_lt_length_of_mem mem

theorem index_nodeOf_lt (mem : ref ∈ order.map (·.ref)) : (nodeOf order ref).index < order.length :=
  -- a number that 32 bits do not hold wraps around, which makes it smaller
  Nat.lt_of_le_of_lt (Ident.index_ofIndex_le _) (idxOf_ref_lt mem)

end Order

/-! ## Plotting -/

namespace Plot

/-- The vertices that the plot remembers are the ones in the order, and each has the node of its place there. -/
structure Follows (p : Plot) (order : List Vertex) : Prop where
  positions : p.draft.positions.toList = order.map (·.position)
  nodes : ∀ ref : Int, p.nodes[ref]? = if ref ∈ order.map (·.ref) then some (nodeOf order ref) else none

namespace Follows

variable {p : Plot} {order : List Vertex}

theorem empty : Plot.empty.Follows [] := ⟨rfl, by simp [Plot.empty]⟩

theorem size_positions (h : p.Follows order) : p.draft.positions.size = order.length := by
  simpa using congrArg List.length h.positions

/-- The node of a name lies where the vertices with that name do. -/
theorem position?_nodeOf (h : p.Follows order) (fits : order.length ≤ UInt32.size)
    {place : Int → Option (Point Float)} (lie : ∀ v ∈ order, place v.ref = some v.position) {ref : Int}
    (mem : ref ∈ order.map (·.ref)) : p.draft.position? (nodeOf order ref) = place ref := by
  have inside := idxOf_ref_lt mem
  have index : (nodeOf order ref).index = (order.map (·.ref)).idxOf ref := Ident.index_ofIndex (by omega)
  have name : order[(order.map (·.ref)).idxOf ref].ref = ref := by
    have := List.getElem_idxOf (List.idxOf_lt_length_of_mem mem)
    rwa [List.getElem_map] at this
  have here := lie _ (List.getElem_mem inside)
  rw [name] at here
  rw [Draft.position?, index, here, ← Array.getElem?_toList, h.positions, List.getElem?_map,
    List.getElem?_eq_getElem inside, Option.map_some]

/-- A vertex of a new name becomes the next node. -/
theorem addNode (h : p.Follows order) {v : Vertex} (unknown : v.ref ∉ order.map (·.ref)) :
    (⟨(p.draft.addNode v.position).2, p.nodes.insert v.ref (p.draft.addNode v.position).1⟩ : Plot).Follows
      (order ++ [v]) := by
  constructor
  case positions => simp [Draft.addNode, h.positions]
  case nodes =>
    intro ref
    rw [Std.HashMap.getElem?_insert]
    by_cases new : v.ref = ref
    · subst new
      simp [Draft.addNode, nodeOf, List.idxOf_append, unknown, h.size_positions]
    · have earlier (mem : ref ∈ order.map (·.ref)) : nodeOf (order ++ [v]) ref = nodeOf order ref :=
        nodeOf_grown (List.prefix_append order [v]) mem
      have mem_iff : ref ∈ (order ++ [v]).map (·.ref) ↔ ref ∈ order.map (·.ref) := by simp [Ne.symm new]
      rw [if_neg (by simpa using new), h.nodes]
      by_cases mem : ref ∈ order.map (·.ref)
      · rw [if_pos mem, if_pos (mem_iff.2 mem), earlier mem]
      · rw [if_neg mem, if_neg (mt mem_iff.1 mem)]

/-- Taking the node of a vertex enrolls it. -/
theorem node (h : p.Follows order) (v : Vertex) : ∃ p', p.node v = (nodeOf (enroll order v) v.ref, p') ∧
    p'.Follows (enroll order v) ∧ p'.draft.segments = p.draft.segments := by
  by_cases known : v.ref ∈ order.map (·.ref)
  · have found : p.nodes[v.ref]? = some (nodeOf order v.ref) := by rw [h.nodes, if_pos known]
    rw [enroll, if_pos known, Plot.node, found]
    exact ⟨p, rfl, h, rfl⟩
  · have missing : p.nodes[v.ref]? = none := by rw [h.nodes, if_neg known]
    have next : nodeOf (order ++ [v]) v.ref = .ofIndex p.draft.positions.size := by
      rw [nodeOf, List.map_append, List.idxOf_append, if_neg known, h.size_positions]
      simp
    rw [enroll, if_neg known, Plot.node, missing]
    exact ⟨_, Prod.ext next.symm rfl, h.addNode known, rfl⟩

/-- Drawing a stretch enrolls its ends and adds its segment. -/
theorem draw (h : p.Follows order) (access : Access) (s : Stretch) : ∃ p', p.draw access s = .ok p' ∧
    p'.Follows (enrollEnds order s) ∧
    p'.draft.segments = p.draft.segments.push (s.segment (enrollEnds order s) access) := by
  obtain ⟨q, hq, start, unchanged⟩ := h.node s.start
  obtain ⟨r, hr, finish, unchanged'⟩ := start.node s.finish
  have known : nodeOf (enroll order s.start) s.start.ref = nodeOf (enrollEnds order s) s.start.ref :=
    (nodeOf_grown (prefix_enroll _ s.finish) (mem_enroll order s.start)).symm
  have ends : r.draft.HasEnds (s.segment (enrollEnds order s) access) := by
    rw [Draft.HasEnds, finish.size_positions]
    exact ⟨index_nodeOf_lt (start_mem_enrollEnds order s), index_nodeOf_lt (finish_mem_enrollEnds order s)⟩
  obtain ⟨ends_lt, added⟩ := Draft.addSegment_of_hasEnds ends
  have segments : r.draft.segments.push (s.segment (enrollEnds order s) access) =
      p.draft.segments.push (s.segment (enrollEnds order s) access) := by rw [unchanged', unchanged]
  refine ⟨⟨⟨_, _, ends_lt⟩, r.nodes⟩, ?_, ⟨finish.positions, finish.nodes⟩, segments⟩
  simp only [Plot.draw, hq, hr, known]
  change (r.draft.addSegment (s.segment (enrollEnds order s) access) >>= _) = _
  rw [added]
  rfl

/-- Drawing stretches enrolls all their ends and adds a segment for each, between the nodes of the whole order. -/
theorem drawAll (h : p.Follows order) (l : List (Access × Stretch)) :
    ∃ p', p.drawAll l = .ok p' ∧ p'.Follows ((l.map (·.2)).foldl enrollEnds order) ∧
      p'.draft.segments.toList = p.draft.segments.toList ++
        l.map fun (access, s) => s.segment ((l.map (·.2)).foldl enrollEnds order) access := by
  induction l generalizing p order with
  | nil => exact ⟨p, rfl, h, by simp⟩
  | cons entry l ih =>
    obtain ⟨access, s⟩ := entry
    obtain ⟨q, hq, follows, added⟩ := h.draw access s
    obtain ⟨p', hp', follows', rest⟩ := ih follows
    refine ⟨p', ?_, follows', ?_⟩
    · rw [Plot.drawAll, List.foldlM_cons]
      change (p.draw access s >>= _) = _
      rw [hq]
      exact hp'
    · have grows : enrollEnds order s <+: (l.map (·.2)).foldl enrollEnds (enrollEnds order s) := prefix_foldl _ _
      simp only [rest, added, Array.toList_push, List.append_assoc, List.singleton_append, List.map_cons,
        List.foldl_cons, Stretch.segment_grown grows]

end Follows

end Plot

/-! ## The map of an extract -/

theorem exists_of_bind_eq_ok {ε α β : Type} {x : Except ε α} {f : α → Except ε β} {b : β} (h : x >>= f = .ok b) :
    ∃ a, x = .ok a ∧ f a = .ok b := by
  cases x with
  | error e => cases h
  | ok a => exact ⟨a, rfl, h⟩

/-- The map depends on the stretches alone. -/
theorem map_fst_roadMap (elements : List Element) :
    (roadMap elements).map (·.1) = (Plot.empty.drawAll (cut (courses elements))).map (·.draft.build) := by
  rw [roadMap]
  cases Plot.empty.drawAll (cut (courses elements)) <;> rfl

/-- The vertices that become nodes, in order. -/
def orderOf (elements : List Element) : List Vertex :=
  ((cut (courses elements)).map (·.2)).foldl enrollEnds []

/-- Any extract has a map: its nodes are the vertices of the order, and its edges are the segments of the stretches. -/
theorem roadMap_eq (elements : List Element) : ∃ (plot : Plot) (notices : List Notice),
    roadMap elements = .ok (plot.draft.build, notices) ∧ plot.Follows (orderOf elements) ∧
    plot.draft.segments.toList = (cut (courses elements)).map fun (access, s) => s.segment (orderOf elements) access := by
  obtain ⟨plot, drawn, follows, segments⟩ := Plot.Follows.empty.drawAll (cut (courses elements))
  refine ⟨plot, (courses elements).filterMap Course.notice? ++ [.loaded ((courses elements).countP Course.isLine)
    plot.draft.build.nodeCount plot.draft.build.edgeCount], ?_, follows, segments⟩
  rw [roadMap, drawn]
  rfl

end Roadside.OpenStreetMap
