import Roadside.Script

/-!
# What a script adds

The steps of a script add to a draft and take nothing away: what was there keeps its number, and what is added stands
behind it. The replies tell which segments are among it.

* **Steps only add** (`positions_run`, `segments_run`): nodes stay where they are, and behind the segments that were
  there stand those whose steps were not refused, in the order of the script (`added`).
* **A reply is the number of its segment** (`getElem?_of_reply`).
-/

namespace Roadside

variable {K : Type}

/-- The segment that a step has added, if its reply is the number of an edge. -/
def Step.added? : Step K × Reply → Option (Segment K)
  | (.segment s, .edge _) => some s
  | (.segment _, .node _) | (.segment _, .refused _) | (.node _, _) => none

namespace Draft

/-- The steps of a script with the replies to them. -/
def transcript (d : Draft K) (script : List (Step K)) : List (Step K × Reply) := script.zip (d.run script).1

/-- The segments that a script adds. -/
def added (d : Draft K) (script : List (Step K)) : List (Segment K) := (d.transcript script).filterMap Step.added?

theorem transcript_cons (d : Draft K) (step : Step K) (script : List (Step K)) :
    d.transcript (step :: script) = (step, (d.take step).1) :: (d.take step).2.transcript script := rfl

theorem run_cons (d : Draft K) (step : Step K) (script : List (Step K)) :
    (d.run (step :: script)).2 = ((d.take step).2.run script).2 := rfl

theorem map_fst_transcript (d : Draft K) (script : List (Step K)) : (d.transcript script).map (·.1) = script := by
  induction script generalizing d with
  | nil => rfl
  | cons step script ih => rw [transcript_cons, List.map_cons, ih]

theorem transcript_append (d : Draft K) (script more : List (Step K)) :
    d.transcript (script ++ more) = d.transcript script ++ (d.run script).2.transcript more := by
  induction script generalizing d with
  | nil => rfl
  | cons step script ih => rw [List.cons_append, transcript_cons, ih, transcript_cons, run_cons, List.cons_append]

/-! ## One step -/

/-- A segment is added behind the others, or it is refused and nothing changes. -/
theorem take_segment_cases (d : Draft K) (s : Segment K) :
    (∃ ends_lt, d.take (.segment s) = (.edge (.ofIndex d.segments.size), ⟨d.positions, d.segments.push s, ends_lt⟩)) ∨
      ∃ fault, d.take (.segment s) = (.refused fault, d) := by
  by_cases ends : d.HasEnds s
  · exact .inl (take_segment ends)
  · exact .inr (take_segment_refused ends)

theorem positions_take (d : Draft K) (step : Step K) : d.positions.toList <+: (d.take step).2.positions.toList := by
  cases step with
  | node position => simp [take, addNode]
  | segment s =>
    rcases d.take_segment_cases s with ⟨ends_lt, taken⟩ | ⟨fault, refused⟩
    · exact ⟨[], by rw [taken, List.append_nil]⟩
    · exact ⟨[], by rw [refused, List.append_nil]⟩

theorem segments_take (d : Draft K) (step : Step K) :
    (d.take step).2.segments.toList = d.segments.toList ++ (Step.added? (step, (d.take step).1)).toList := by
  cases step with
  | node position => simp [take, addNode, Step.added?]
  | segment s =>
    rcases d.take_segment_cases s with ⟨ends_lt, taken⟩ | ⟨fault, refused⟩
    · simp [taken, Step.added?]
    · simp [refused, Step.added?]

/-- The reply to a segment that is added is the next number. -/
theorem take_eq_edge {d : Draft K} {s : Segment K} {edge : EdgeId} (h : (d.take (.segment s)).1 = .edge edge) :
    edge = .ofIndex d.segments.size ∧ (d.take (.segment s)).2.segments = d.segments.push s := by
  rcases d.take_segment_cases s with ⟨ends_lt, taken⟩ | ⟨fault, refused⟩
  · rw [taken] at h ⊢
    cases h
    exact ⟨rfl, rfl⟩
  · rw [refused] at h
    cases h

/-! ## A run -/

theorem positions_run (d : Draft K) (script : List (Step K)) :
    d.positions.toList <+: (d.run script).2.positions.toList := by
  induction script generalizing d with
  | nil => exact List.prefix_rfl
  | cons step script ih =>
    rw [run_cons]
    exact (d.positions_take step).trans (ih _)

theorem segments_run (d : Draft K) (script : List (Step K)) :
    (d.run script).2.segments.toList = d.segments.toList ++ d.added script := by
  induction script generalizing d with
  | nil => simp [run, added, transcript]
  | cons step script ih =>
    rw [run_cons, ih, segments_take, added, added, transcript_cons, List.append_assoc]
    congr 1
    cases h : Step.added? (step, (d.take step).1) <;> simp [h]

/-- Segments keep their numbers if others are added behind them. -/
theorem getElem?_segments {d d' : Draft K} {more : List (Segment K)} {k : Nat} {s : Segment K}
    (added : d'.segments.toList = d.segments.toList ++ more) (h : d.segments[k]? = some s) :
    d'.segments[k]? = some s := by
  have inside : k < d.segments.toList.length := (Array.getElem?_eq_some_iff.1 h).1
  rw [← Array.getElem?_toList, added, List.getElem?_append_left inside, Array.getElem?_toList, h]

theorem getElem?_run {d : Draft K} {k : Nat} {s : Segment K} (h : d.segments[k]? = some s) (script : List (Step K)) :
    (d.run script).2.segments[k]? = some s := getElem?_segments (d.segments_run script) h

/-- The reply to a segment that is added is its number from then on. -/
theorem getElem?_of_reply {d : Draft K} {script : List (Step K)} {s : Segment K} {edge : EdgeId}
    (h : (.segment s, .edge edge) ∈ d.transcript script) :
    ∃ k, edge = .ofIndex k ∧ (d.run script).2.segments[k]? = some s := by
  induction script generalizing d with
  | nil => cases h
  | cons step script ih =>
    rw [transcript_cons, List.mem_cons, Prod.mk.injEq] at h
    rw [run_cons]
    rcases h with ⟨rfl, reply⟩ | later
    · obtain ⟨rfl, segments⟩ := take_eq_edge reply.symm
      refine ⟨_, rfl, getElem?_run ?_ script⟩
      rw [segments, Array.getElem?_push_size]
    · exact ih later

end Draft

/-- A script that goes on goes on from the draft that it has made. -/
theorem mapOf_append (script more : List (Step K)) :
    mapOf (script ++ more) = ((Draft.empty.run script).2.run more).2.build :=
  congrArg Draft.build (Draft.run_append _ script more)

end Roadside
