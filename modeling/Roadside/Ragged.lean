/-!
# Rows packed end to end

Rows of different lengths are kept in one array, beside the places where they start. The last start is the end of the
last row, so there is one start more than there are rows.

* **A packed row is the row** (`row?_ofRows`), and there are as many as were packed (`size_ofRows`).
* **Rows lie one behind the other** (`starts_ofRows_mono`), from the front of the items to their end.
-/

namespace Roadside

/-- Rows packed end to end: row `i` is what `items` holds from `starts[i]` up to `starts[i + 1]`. -/
structure Ragged (α : Type) where
  starts : Array Nat
  items : Array α
  deriving DecidableEq

namespace Ragged

variable {α : Type}

/-- The number of rows. -/
def size (r : Ragged α) : Nat := r.starts.size - 1

/-- A row by its number. -/
def row? (r : Ragged α) (i : Nat) : Option (List α) :=
  match r.starts[i]?, r.starts[i + 1]? with
  | some start, some stop => some (r.items.extract start stop).toList
  | _, _ => none

/-! ## Where rows start -/

/-- The places where rows of these lengths start, and where the last one ends, if the first starts at `start`. -/
def startsFrom (start : Nat) : List Nat → List Nat
  | [] => [start]
  | length :: lengths => start :: startsFrom (start + length) lengths

@[simp] theorem length_startsFrom : ∀ (start : Nat) (lengths : List Nat),
    (startsFrom start lengths).length = lengths.length + 1
  | _, [] => rfl
  | start, length :: lengths => by simp [startsFrom, length_startsFrom (start + length) lengths]

/-- A row starts after all that is in the rows before it. -/
theorem getElem?_startsFrom : ∀ (start : Nat) (rows : List (List α)) {i : Nat}, i ≤ rows.length →
    (startsFrom start (rows.map List.length))[i]? = some (start + (rows.take i).flatten.length)
  | _, [], 0, _ => rfl
  | _, _ :: _, 0, _ => rfl
  | start, row :: rows, i + 1, h => by
    rw [List.map_cons, startsFrom, List.getElem?_cons_succ, getElem?_startsFrom _ rows (Nat.le_of_succ_le_succ h),
      List.take_succ_cons, List.flatten_cons, List.length_append, Nat.add_assoc]

/-! ## Packing rows -/

def ofRows (rows : List (List α)) : Ragged α :=
  ⟨(startsFrom 0 (rows.map List.length)).toArray, rows.flatten.toArray⟩

@[simp] theorem size_ofRows (rows : List (List α)) : (ofRows rows).size = rows.length := by
  simp [size, ofRows]

/-- Row `i` starts where the rows before it end. -/
theorem getElem?_starts_ofRows {rows : List (List α)} {i : Nat} (h : i ≤ rows.length) :
    (ofRows rows).starts[i]? = some (rows.take i).flatten.length := by
  rw [ofRows, List.getElem?_toArray, getElem?_startsFrom 0 rows h, Nat.zero_add]

/-- There is a start for each row, and the end of the last one. -/
theorem size_starts_ofRows (rows : List (List α)) : (ofRows rows).starts.size = rows.length + 1 := by
  simp [ofRows]

/-- The first row starts at the front, whether or not there is one. -/
theorem getElem?_starts_ofRows_zero (rows : List (List α)) : (ofRows rows).starts[0]? = some 0 := by
  rw [getElem?_starts_ofRows (Nat.zero_le _), List.take_zero, List.flatten_nil, List.length_nil]

/-- The last row ends where the items do. -/
theorem getElem?_starts_ofRows_length (rows : List (List α)) :
    (ofRows rows).starts[rows.length]? = some (ofRows rows).items.size := by
  rw [getElem?_starts_ofRows (Nat.le_refl _), List.take_length, ofRows, List.size_toArray]

/-- No row starts before an earlier one. -/
theorem starts_ofRows_mono {rows : List (List α)} {i j start stop : Nat} (le : i ≤ j)
    (hi : (ofRows rows).starts[i]? = some start) (hj : (ofRows rows).starts[j]? = some stop) : start ≤ stop := by
  have inside : j < (ofRows rows).starts.size := (Array.getElem?_eq_some_iff.1 hj).1
  rw [size_starts_ofRows] at inside
  rw [getElem?_starts_ofRows (by omega), Option.some.injEq] at hi hj
  obtain ⟨k, rfl⟩ := Nat.exists_eq_add_of_le le
  rw [← hi, ← hj, List.take_add, List.flatten_append, List.length_append]
  exact Nat.le_add_right ..

/-- Row `i` lies between the rows before it and the rows after it. -/
theorem flatten_split {rows : List (List α)} {i : Nat} (h : i < rows.length) :
    rows.flatten = (rows.take i).flatten ++ (rows[i] ++ (rows.drop (i + 1)).flatten) := by
  rw [← List.flatten_cons, List.getElem_cons_drop, ← List.flatten_append, List.take_append_drop]

theorem take_drop_flatten {rows : List (List α)} {i : Nat} (h : i < rows.length) :
    (rows.flatten.drop (rows.take i).flatten.length).take rows[i].length = rows[i] := by
  rw [flatten_split h, List.drop_left, List.take_left]

@[simp] theorem row?_ofRows (rows : List (List α)) (i : Nat) : (ofRows rows).row? i = rows[i]? := by
  by_cases h : i < rows.length
  · have hd : (rows.take (i + 1)).flatten.length - (rows.take i).flatten.length = rows[i].length := by
      rw [List.take_succ_eq_append_getElem h, List.flatten_append, List.length_append, Nat.add_sub_cancel_left,
        List.flatten_singleton]
    simp only [row?, getElem?_starts_ofRows (Nat.le_of_lt h), getElem?_starts_ofRows (Nat.succ_le_of_lt h),
      List.getElem?_eq_getElem h]
    simp [ofRows, List.extract_eq_take_drop, hd, take_drop_flatten h, -List.length_flatten]
  · have : (ofRows rows).starts[i + 1]? = none := by simp [ofRows]; omega
    rw [row?, this]
    simp; omega

end Ragged

end Roadside
