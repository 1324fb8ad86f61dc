import Roadside.Proofs.Growth

/-!
# Steps that are refused

A step is refused only for an end of a segment that is not there yet, and a refused step leaves no trace: neither the
map nor any other reply would be different without it.

* **Replies number what is added** (`exists_identsIn_transcript`), nodes and edges each from zero on, so the nodes that
  a step may name are those that the replies before it have named (`mem_identsIn_iff`).
* **Refused steps leave no trace** (`refused_leaveNoTrace`): every step of a script is answered as the nodes that are
  known by then ask for (`Answers`), the numbers in the replies leave nothing out, and the script without its refused
  steps makes the same map with the same replies.
-/

namespace Roadside

variable {K : Type}

/-! ## Replies -/

/-- The number in a reply, if it is of the kind. -/
def Reply.ident? : (kind : Kind) → Reply → Option (Ident kind)
  | .node, .node i => some i
  | .edge, .edge i => some i
  | .node, .edge _ | .edge, .node _ | _, .refused _ => none

/-- The numbers of a kind in the replies of a transcript. -/
def identsIn (kind : Kind) (transcript : List (Step K × Reply)) : List (Ident kind) :=
  transcript.filterMap fun entry => entry.2.ident? kind

def Reply.isRefused : Reply → Bool
  | .refused _ => true
  | .node _ | .edge _ => false

/-- How a step is to be answered when these nodes have been added before it. -/
inductive Answers (known : List NodeId) : Step K → Reply → Prop
  | node (position : Point K) (node : NodeId) : Answers known (.node position) (.node node)
  | edge (s : Segment K) (start : s.ends.start ∈ known) (finish : s.ends.finish ∈ known) (edge : EdgeId) :
      Answers known (.segment s) (.edge edge)
  | noStart (s : Segment K) (start : s.ends.start ∉ known) :
      Answers known (.segment s) (.refused (.unknownNode s.ends.start))
  | noFinish (s : Segment K) (start : s.ends.start ∈ known) (finish : s.ends.finish ∉ known) :
      Answers known (.segment s) (.refused (.unknownNode s.ends.finish))

namespace Draft

/-- How many nodes the draft has, or edges. -/
def count (d : Draft K) : Kind → Nat
  | .node => d.positions.size
  | .edge => d.segments.size

/-- The steps of a script that are not refused. -/
def survivors (d : Draft K) (script : List (Step K)) : List (Step K) :=
  ((d.transcript script).filter fun entry => !entry.2.isRefused).map (·.1)

/-! ## One step -/

/-- The first end that is missing is the one for which a segment is refused. -/
theorem fst_take_segment (d : Draft K) (s : Segment K) : (d.take (.segment s)).1 =
    if s.ends.start.index < d.positions.size then
      if s.ends.finish.index < d.positions.size then .edge (.ofIndex d.segments.size)
      else .refused (.unknownNode s.ends.finish)
    else .refused (.unknownNode s.ends.start) := by
  rw [take, addSegment]
  by_cases start : s.ends.start.index < d.positions.size
  · by_cases finish : s.ends.finish.index < d.positions.size
    · rw [dif_pos start, dif_pos finish, if_pos start, if_pos finish]
    · rw [dif_pos start, dif_neg finish, if_pos start, if_neg finish]
  · rw [dif_neg start, if_neg start]

theorem answers_take {d : Draft K} {known : List NodeId} (complete : ∀ i, i ∈ known ↔ i.index < d.positions.size)
    (step : Step K) : Answers known step (d.take step).1 := by
  cases step with
  | node position => exact .node position _
  | segment s =>
    rw [fst_take_segment]
    split
    case isFalse start => exact .noStart s (mt (complete _).1 start)
    case isTrue start =>
      split
      case isFalse finish => exact .noFinish s ((complete _).2 start) (mt (complete _).1 finish)
      case isTrue finish => exact .edge s ((complete _).2 start) ((complete _).2 finish) _

/-- A refused step leaves the draft as it was. -/
theorem take_of_isRefused {d : Draft K} {step : Step K} (refused : (d.take step).1.isRefused = true) :
    (d.take step).2 = d := by
  cases step with
  | node position => cases refused
  | segment s =>
    rcases d.take_segment_cases s with ⟨ends_lt, taken⟩ | ⟨fault, same⟩
    · rw [taken] at refused
      cases refused
    · rw [same]

/-- A reply of a kind has the next number of the kind, and otherwise the count does not change. -/
theorem count_take (d : Draft K) (step : Step K) (kind : Kind) :
    ((d.take step).1.ident? kind = some (.ofIndex (d.count kind)) ∧ (d.take step).2.count kind = d.count kind + 1) ∨
      (d.take step).1.ident? kind = none ∧ (d.take step).2.count kind = d.count kind := by
  cases step with
  | node position =>
    cases kind with
    | node => exact .inl ⟨rfl, Array.size_push _⟩
    | edge => exact .inr ⟨rfl, rfl⟩
  | segment s =>
    rcases d.take_segment_cases s with ⟨ends_lt, taken⟩ | ⟨fault, refused⟩
    · rw [taken]
      cases kind with
      | node => exact .inr ⟨rfl, rfl⟩
      | edge => exact .inl ⟨rfl, Array.size_push _⟩
    · rw [refused]
      exact .inr ⟨by cases kind <;> rfl, rfl⟩

/-! ## A run -/

theorem identsIn_cons (kind : Kind) (entry : Step K × Reply) (transcript : List (Step K × Reply)) :
    identsIn kind (entry :: transcript) = (entry.2.ident? kind).toList ++ identsIn kind transcript := by
  rw [identsIn, List.filterMap_cons, identsIn]
  cases entry.2.ident? kind <;> rfl

/-- The replies of a kind have the numbers that follow those that are given. -/
theorem exists_identsIn_transcript (d : Draft K) (script : List (Step K)) (kind : Kind) : ∃ n,
    identsIn kind (d.transcript script) = (List.range' (d.count kind) n).map Ident.ofIndex ∧
      (d.run script).2.count kind = d.count kind + n := by
  induction script generalizing d with
  | nil => exact ⟨0, rfl, rfl⟩
  | cons step script ih =>
    obtain ⟨n, idents, count⟩ := ih (d.take step).2
    rw [transcript_cons, run_cons, identsIn_cons, idents, count]
    rcases d.count_take step kind with ⟨next, grown⟩ | ⟨none, same⟩
    · rw [next, grown]
      exact ⟨n + 1, rfl, by omega⟩
    · rw [none, same]
      exact ⟨n, rfl, rfl⟩

/-- Without its refused steps a script goes the same way. -/
theorem transcript_survivors (d : Draft K) (script : List (Step K)) :
    d.transcript (d.survivors script) = (d.transcript script).filter (fun entry => !entry.2.isRefused) ∧
      (d.run (d.survivors script)).2 = (d.run script).2 := by
  induction script generalizing d with
  | nil => exact ⟨rfl, rfl⟩
  | cons step script ih =>
    obtain ⟨replies, draft⟩ := ih (d.take step).2
    rw [survivors, transcript_cons, run_cons]
    cases refused : (d.take step).1.isRefused with
    | false =>
      rw [List.filter_cons_of_pos (by simp [refused]), List.map_cons, transcript_cons, run_cons, ← survivors]
      exact ⟨congrArg _ replies, draft⟩
    | true =>
      rw [take_of_isRefused refused] at replies draft ⊢
      rw [List.filter_cons_of_neg (by simp [refused]), ← survivors]
      exact ⟨replies, draft⟩

/-- A reply in a transcript is the reply of the draft that the steps before it have made. -/
theorem exists_of_transcript_eq {d : Draft K} {script : List (Step K)} {earlier later : List (Step K × Reply)}
    {step : Step K} {reply : Reply} (h : d.transcript script = earlier ++ (step, reply) :: later) :
    ∃ before after, script = before ++ step :: after ∧ earlier = d.transcript before ∧
      reply = ((d.run before).2.take step).1 := by
  have steps : script = earlier.map (·.1) ++ step :: later.map (·.1) := by
    rw [← d.map_fst_transcript script, h, List.map_append, List.map_cons]
  have length : (d.transcript (earlier.map (·.1))).length = earlier.length := by
    simpa using congrArg List.length (d.map_fst_transcript (earlier.map (·.1)))
  refine ⟨_, _, steps, ?_⟩
  rw [steps, transcript_append, transcript_cons] at h
  obtain ⟨before, rest⟩ := List.append_inj h length
  exact ⟨before.symm, (congrArg Prod.snd (List.cons.inj rest).1).symm⟩

/-- The nodes that a draft has are those in the replies that have made it. -/
theorem mem_identsIn_iff {script : List (Step K)} {i : NodeId} :
    i ∈ identsIn .node ((empty : Draft K).transcript script) ↔ i.index < (empty.run script).2.positions.size := by
  obtain ⟨n, idents, count⟩ := (empty : Draft K).exists_identsIn_transcript script .node
  have size : (empty.run script).2.positions.size = n := count.trans (Nat.zero_add n)
  have place (k : Nat) : k ∈ List.range' ((empty : Draft K).count .node) n ↔ k < n := by simp [Draft.count, empty]
  simp only [idents, size, List.mem_map, place]
  constructor
  · rintro ⟨k, below, rfl⟩
    exact Nat.lt_of_le_of_lt (Ident.index_ofIndex_le k) below
  · exact fun below => ⟨i.index, below, i.ofIndex_index⟩

end Draft

/-! ## Scripts -/

/-- The refused steps of a script leave no trace in its replies and its map. -/
structure LeavesNoTrace (script : List (Step K)) : Prop where
  /-- Every step has a reply. -/
  steps : (Draft.empty.transcript script).map (·.1) = script
  /-- A segment is refused iff one of its ends has not been added yet, and then for the first such end. -/
  answers : ∀ earlier step reply later, Draft.empty.transcript script = earlier ++ (step, reply) :: later →
    Answers (identsIn .node earlier) step reply
  /-- The nodes in the replies are numbered from zero, in order. -/
  nodes : (identsIn .node (Draft.empty.transcript script)).map (·.index) =
    List.range (mapOf script).nodeCount
  /-- And so are the edges. -/
  edges : (identsIn .edge (Draft.empty.transcript script)).map (·.index) =
    List.range (mapOf script).edgeCount
  /-- Without the refused steps, the others have the same replies. -/
  replies : Draft.empty.transcript (Draft.empty.survivors script) =
    (Draft.empty.transcript script).filter fun entry => !entry.2.isRefused
  same : mapOf (Draft.empty.survivors script) = mapOf script

/-- Numbers that 32 bits hold are given from zero on. -/
theorem map_index_identsIn {script : List (Step K)} {kind : Kind}
    (fits : ((Draft.empty : Draft K).run script).2.count kind ≤ UInt32.size) :
    (identsIn kind ((Draft.empty : Draft K).transcript script)).map (·.index) =
      List.range ((Draft.empty.run script).2.count kind) := by
  obtain ⟨n, idents, count⟩ := (Draft.empty : Draft K).exists_identsIn_transcript script kind
  have none : (Draft.empty : Draft K).count kind = 0 := by cases kind <;> rfl
  rw [none, Nat.zero_add] at count
  rw [idents, none, count, List.map_map, List.range_eq_range']
  refine (List.map_congr_left fun k hk => ?_).trans (List.map_id _)
  obtain ⟨-, below⟩ := List.mem_range'_1.1 hk
  exact Ident.index_ofIndex (by omega)

/-- **Refused steps leave no trace**: a segment is refused iff one of its ends has not been added yet, the replies
number the nodes and the edges from zero on, and without its refused steps the script makes the same map with the same
replies. -/
theorem refused_leaveNoTrace (script : List (Step K)) (fits : (mapOf script).Fits) : LeavesNoTrace script := by
  have edges := Draft.size_segments_le fits
  have nodes : (Draft.empty.run script).2.positions.size < UInt32.size := fits.nodes
  obtain ⟨replies, draft⟩ := (Draft.empty : Draft K).transcript_survivors script
  constructor
  case steps => exact Draft.empty.map_fst_transcript script
  case answers =>
    intro earlier step reply later h
    obtain ⟨before, after, rfl, rfl, rfl⟩ := Draft.exists_of_transcript_eq h
    exact Draft.answers_take (fun _ => Draft.mem_identsIn_iff) step
  case nodes => exact map_index_identsIn (Nat.le_of_lt nodes)
  case edges =>
    rw [mapOf, Draft.edgeCount_build]
    exact map_index_identsIn edges
  case replies => exact replies
  case same => exact congrArg Draft.build draft

/-- A street that is refused once for its start, once for its finish and once for both, and is added in the end. -/
def hastyStreet : List (Step Rat) :=
  [.segment (.straight ⟨0⟩ ⟨1⟩ .both), .node ⟨0, 0⟩, .segment (.straight ⟨0⟩ ⟨1⟩ .both),
    .segment ⟨⟨⟨1⟩, ⟨0⟩⟩, .both, [⟨1, 0⟩]⟩, .node ⟨0, 1⟩, .segment (.straight ⟨0⟩ ⟨1⟩ .forwardOnly),
    .segment (.straight ⟨1⟩ ⟨4294967295⟩ .both), .segment (.straight ⟨1⟩ ⟨1⟩ .both)]

theorem refused_leaveNoTrace_hastyStreet : (mapOf hastyStreet).Fits ∧ LeavesNoTrace hastyStreet :=
  have fits : (mapOf hastyStreet).Fits := by decide +kernel
  ⟨fits, refused_leaveNoTrace hastyStreet fits⟩

example : Draft.empty.survivors hastyStreet =
    [.node ⟨0, 0⟩, .node ⟨0, 1⟩, .segment (.straight ⟨0⟩ ⟨1⟩ .forwardOnly), .segment (.straight ⟨1⟩ ⟨1⟩ .both)] := by
  decide +kernel

end Roadside
