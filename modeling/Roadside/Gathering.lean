import Roadside.Ragged

/-!
# Gathering entries into rows

Entries that come with the number of a row are gathered into packed rows in three passes over flat arrays: the entries
of each row are counted, the counts are summed up to the places where the rows start, and every entry is put where the
cursor of its row stands, which then moves on. No pass touches a place that its array does not have; where one would,
there is no result.

* **One entry is put where its row has come to** (`place?_halfway`): `halfway` is the state of the last pass when some
  entries are placed and others are left, and placing the next entry leads from one such state to the next.
* **Gathering keeps the order** (`gather?_eq`): entries under numbers of rows are gathered, and each row holds what was
  entered under its number, in the order of entry.
* **Gathering loses nothing** (`perm_flatten_rowsOf`): the items of all rows are what was entered, in another order.
-/

namespace Roadside

namespace Ragged

variable {α : Type}

/-! ## The passes -/

/-- The array with a changed item at a place that it has. -/
def update? {β : Type} (items : Array β) (i : Nat) (f : β → β) : Option (Array β) :=
  if i < items.size then some (items.modify i f) else none

/-- The number of entries under each of the first `n` numbers. -/
def counts? (n : Nat) (entries : List (Nat × α)) : Option (Array Nat) :=
  entries.foldlM (fun counts entry => update? counts entry.1 (· + 1)) (Array.replicate n 0)

/-- Rows that are being filled. -/
structure Filling (α : Type) where
  /-- Where the next entry of each row goes. -/
  cursors : Array Nat
  items : Array α

/-- Puts an entry where the cursor of its row stands, and moves the cursor on. -/
def Filling.place? (f : Filling α) (entry : Nat × α) : Option (Filling α) := do
  let place ← f.cursors[entry.1]?
  let items ← update? f.items place fun _ => entry.2
  let cursors ← update? f.cursors entry.1 (· + 1)
  return ⟨cursors, items⟩

/-- The entries sorted into `n` rows by their numbers. Until an entry is put there, a place holds `blank`. -/
def gather? (blank : α) (n : Nat) (entries : List (Nat × α)) : Option (Ragged α) := do
  let counts ← counts? n entries
  let starts := startsFrom 0 counts.toList
  let total ← starts[n]?
  let filling ← entries.foldlM Filling.place? ⟨(starts.take n).toArray, Array.replicate total blank⟩
  return ⟨starts.toArray, filling.items⟩

/-! ## What is entered in a row -/

/-- The entries under one number, in order. -/
def entered (k : Nat) (entries : List (Nat × α)) : List α :=
  entries.filterMap fun entry => if entry.1 = k then some entry.2 else none

@[simp] theorem entered_nil (k : Nat) : entered k ([] : List (Nat × α)) = [] := rfl

theorem entered_cons (k : Nat) (entry : Nat × α) (entries : List (Nat × α)) :
    entered k (entry :: entries) = (if entry.1 = k then [entry.2] else []) ++ entered k entries := by
  by_cases h : entry.1 = k <;> simp [entered, h]

@[simp] theorem entered_append (k : Nat) (entries more : List (Nat × α)) :
    entered k (entries ++ more) = entered k entries ++ entered k more :=
  List.filterMap_append

/-- The first `n` rows. -/
def rowsOf (n : Nat) (entries : List (Nat × α)) : List (List α) := (List.range n).map (entered · entries)

/-! ## Changing one of many items -/

/-- Changing the value at `k` in a table of a function. -/
theorem modify_map_range {β : Type} (n k : Nat) (g : Nat → β) (f : β → β) :
    ((List.range n).map g).modify k f = (List.range n).map fun j => if j = k then f (g j) else g j := by
  apply List.ext_getElem?
  intro j
  rw [List.getElem?_modify, List.getElem?_map, List.getElem?_map]
  by_cases hj : j < n
  · simp [List.getElem?_range hj, eq_comm]
  · simp [hj]

theorem update?_map_range {β : Type} {n k : Nat} (h : k < n) (g : Nat → β) (f : β → β) :
    update? ((List.range n).map g).toArray k f =
      some ((List.range n).map fun j => if j = k then f (g j) else g j).toArray := by
  rw [update?, if_pos (by simpa using h), List.modify_toArray, modify_map_range]

theorem modify_append_left {f : α → α} {i : Nat} {l : List α} (m : List α) (h : i < l.length) :
    (l ++ m).modify i f = l.modify i f ++ m := by
  apply List.ext_getElem?
  grind

theorem modify_append_right {f : α → α} {i : Nat} (l m : List α) :
    (l ++ m).modify (l.length + i) f = l ++ m.modify i f := by
  apply List.ext_getElem?
  grind

/-- Changing an item of a row changes, among all items, the one that lies as far behind the start of the row. -/
theorem flatten_modify_modify {f : α → α} : ∀ {rows : List (List α)} {i j : Nat} (hi : i < rows.length),
    j < rows[i].length →
    (rows.modify i (·.modify j f)).flatten = rows.flatten.modify ((rows.take i).flatten.length + j) f
  | row :: rows, 0, j, _, hj => by
    have hj : j < row.length := hj
    simp only [List.modify_zero_cons, List.flatten_cons, List.take_zero, List.flatten_nil, List.length_nil,
      Nat.zero_add]
    rw [modify_append_left _ hj]
  | row :: rows, i + 1, j, hi, hj => by
    simp only [List.modify_succ_cons, List.flatten_cons, List.take_succ_cons, List.length_append, Nat.add_assoc]
    rw [modify_append_right, flatten_modify_modify (Nat.lt_of_succ_lt_succ hi) hj]

theorem lt_length_flatten {rows : List (List α)} {i j : Nat} (hi : i < rows.length) (hj : j < rows[i].length) :
    (rows.take i).flatten.length + j < rows.flatten.length := by
  rw [flatten_split hi, List.length_append, List.length_append]
  omega

/-! ## Counting -/

/-- The entries are counted on top of what was counted before. -/
theorem foldlM_count {n : Nat} {entries : List (Nat × α)} (h : ∀ entry ∈ entries, entry.1 < n) (g : Nat → Nat) :
    entries.foldlM (fun counts entry => update? counts entry.1 (· + 1)) ((List.range n).map g).toArray =
      some ((List.range n).map fun k => g k + (entered k entries).length).toArray := by
  induction entries generalizing g with
  | nil => simp
  | cons entry entries ih =>
    rw [List.foldlM_cons, update?_map_range (h _ List.mem_cons_self)]
    simp only [Option.bind_eq_bind, Option.bind_some]
    rw [ih fun e he => h e (List.mem_cons_of_mem _ he)]
    congr 3
    funext k
    by_cases hk : k = entry.1
    · simp [entered_cons, hk]; omega
    · simp [entered_cons, hk, Ne.symm hk]

theorem counts?_eq {n : Nat} {entries : List (Nat × α)} (h : ∀ entry ∈ entries, entry.1 < n) :
    counts? n entries = some ((rowsOf n entries).map List.length).toArray := by
  have zeros : Array.replicate n 0 = ((List.range n).map fun _ => 0).toArray := by simp [List.map_const']
  rw [counts?, zeros, foldlM_count h]
  simp [rowsOf, Function.comp_def]

/-! ## Filling -/

/-- The number of entries under the numbers before `k`. -/
def offset (k : Nat) (entries : List (Nat × α)) : Nat := (rowsOf k entries).flatten.length

section Filling

variable (blank : α) (n : Nat) (placed left : List (Nat × α))

/-- The rows when some entries are placed and the others are left. -/
def halfRows : List (List α) :=
  (List.range n).map fun k => entered k placed ++ List.replicate (entered k left).length blank

/-- The state of the last pass when some entries are placed and the others are left: each cursor stands behind all
rows before its own and behind what its own row has so far. -/
def halfway : Filling α where
  cursors := ((List.range n).map fun k => offset k (placed ++ left) + (entered k placed).length).toArray
  items := (halfRows blank n placed left).flatten.toArray

variable {blank n placed left}

/-- Rows take the same room from the first entry to the last. -/
theorem length_flatten_take_halfRows {k : Nat} (h : k ≤ n) :
    ((halfRows blank n placed left).take k).flatten.length = offset k (placed ++ left) := by
  simp [halfRows, offset, rowsOf, List.length_flatten, ← List.map_take, List.take_range, Nat.min_eq_left h,
    Function.comp_def]

/-- The next entry under `k` takes the first blank place of row `k`. -/
theorem halfRows_place (k : Nat) (a : α) :
    (halfRows blank n placed ((k, a) :: left)).modify k (·.modify (entered k placed).length fun _ => a) =
      halfRows blank n (placed ++ [(k, a)]) left := by
  rw [halfRows, modify_map_range, halfRows]
  congr 1
  funext j
  by_cases h : j = k
  · subst h
    have : (entered j placed ++ blank :: List.replicate (entered j left).length blank).modify
        ((entered j placed).length + 0) (fun _ => a) = _ := modify_append_right _ _
    simpa [entered_cons, Nat.add_comm 1, List.replicate_succ] using this
  · simp [h, entered_cons, Ne.symm h]

theorem update?_items {k : Nat} {a : α} (h : k < n) :
    update? (halfway blank n placed ((k, a) :: left)).items
      (offset k (placed ++ (k, a) :: left) + (entered k placed).length) (fun _ => a) =
      some (halfway blank n (placed ++ [(k, a)]) left).items := by
  have hk : k < (halfRows blank n placed ((k, a) :: left)).length := by simpa [halfRows] using h
  have inside : (entered k placed).length < (halfRows blank n placed ((k, a) :: left))[k].length := by
    simp only [halfRows, List.getElem_map, List.getElem_range, entered_cons, if_pos, List.length_append,
      List.length_replicate, List.length_cons, List.length_nil]
    omega
  rw [← length_flatten_take_halfRows (Nat.le_of_lt h), update?, halfway, List.size_toArray,
    if_pos (lt_length_flatten hk inside), List.modify_toArray, ← flatten_modify_modify hk inside, halfRows_place,
    halfway]

theorem update?_cursors {k : Nat} {a : α} (h : k < n) :
    update? (halfway blank n placed ((k, a) :: left)).cursors k (· + 1) =
      some (halfway blank n (placed ++ [(k, a)]) left).cursors := by
  rw [halfway, update?_map_range h, halfway, List.append_assoc, List.singleton_append]
  congr 3
  funext j
  by_cases hj : j = k
  · simp [hj, entered_cons]; omega
  · simp [hj, entered_cons, Ne.symm hj]

/-- Row `k` starts behind all that is entered under numbers before `k`. -/
theorem getElem?_starts {k : Nat} {entries : List (Nat × α)} (h : k ≤ n) :
    (startsFrom 0 ((rowsOf n entries).map List.length))[k]? = some (offset k entries) := by
  rw [getElem?_startsFrom 0 _ (by simpa [rowsOf] using h), Nat.zero_add, rowsOf, ← List.map_take, List.take_range,
    Nat.min_eq_left h]
  rfl

/-- The last pass begins with the cursors at the starts of the rows and with every place blank. -/
theorem halfway_nil {entries : List (Nat × α)} :
    (⟨((startsFrom 0 ((rowsOf n entries).map List.length)).take n).toArray,
      Array.replicate (offset n entries) blank⟩ : Filling α) = halfway blank n [] entries := by
  have cursors : (startsFrom 0 ((rowsOf n entries).map List.length)).take n =
      (List.range n).map fun k => offset k entries := by
    apply List.ext_getElem?
    intro k
    by_cases h : k < n
    · simp [h, getElem?_starts (Nat.le_of_lt h)]
    · rw [List.getElem?_eq_none (Nat.le_trans (List.length_take_le ..) (Nat.le_of_not_lt h)),
        List.getElem?_eq_none (by simpa using h)]
  have room : (halfRows blank n [] entries).flatten.length = offset n entries := by
    have : ((halfRows blank n [] entries).take n).flatten.length = _ := length_flatten_take_halfRows (Nat.le_refl n)
    rwa [List.take_of_length_le (by simp [halfRows])] at this
  have blanks : (halfRows blank n [] entries).flatten = List.replicate (offset n entries) blank := by
    refine List.eq_replicate_iff.2 ⟨room, fun b hb => ?_⟩
    simp only [halfRows, entered_nil, List.nil_append, List.mem_flatten, List.mem_map] at hb
    obtain ⟨_, ⟨k, _, rfl⟩, hb⟩ := hb
    exact List.eq_of_mem_replicate hb
  simp [halfway, cursors, blanks]

/-- Placing the next entry leads from one state of the last pass to the next. -/
theorem place?_halfway {entry : Nat × α} (h : entry.1 < n) :
    (halfway blank n placed (entry :: left)).place? entry = some (halfway blank n (placed ++ [entry]) left) := by
  obtain ⟨k, a⟩ := entry
  have cursor : (halfway blank n placed ((k, a) :: left)).cursors[k]? =
      some (offset k (placed ++ (k, a) :: left) + (entered k placed).length) := by
    simp [halfway, List.getElem?_range h]
  simp only [Filling.place?, cursor, Option.bind_eq_bind, Option.bind_some, update?_items h, update?_cursors h]
  rfl

/-- Placing all that is left leads to the end of the last pass. -/
theorem foldlM_place?_halfway (h : ∀ entry ∈ left, entry.1 < n) :
    left.foldlM Filling.place? (halfway blank n placed left) = some (halfway blank n (placed ++ left) []) := by
  -- what is placed grows while what is left shrinks, so the list of entries as a whole stays
  induction left generalizing placed with
  | nil => simp
  | cons entry left ih =>
    rw [List.foldlM_cons, place?_halfway (h _ List.mem_cons_self), Option.bind_eq_bind, Option.bind_some,
      ih fun e he => h e (List.mem_cons_of_mem _ he), List.append_assoc, List.singleton_append]

end Filling

/-! ## The passes together -/

/-- Entries under the numbers of rows are gathered, each row in the order of entry. -/
theorem gather?_eq {blank : α} {n : Nat} {entries : List (Nat × α)} (h : ∀ entry ∈ entries, entry.1 < n) :
    gather? blank n entries = some (ofRows (rowsOf n entries)) := by
  simp only [gather?, counts?_eq h, Option.bind_eq_bind, Option.bind_some, getElem?_starts (Nat.le_refl n),
    halfway_nil, foldlM_place?_halfway h]
  simp [halfway, halfRows, ofRows, rowsOf]

/-- An entry stands in front of what its row would hold without it. -/
theorem rowsOf_cons {n : Nat} (entry : Nat × α) (entries : List (Nat × α)) :
    rowsOf n (entry :: entries) = (rowsOf n entries).modify entry.1 (entry.2 :: ·) := by
  rw [rowsOf, rowsOf, modify_map_range]
  congr 1
  funext k
  by_cases h : k = entry.1
  · simp [entered_cons, h]
  · simp [entered_cons, h, Ne.symm h]

theorem perm_flatten_modify_cons {rows : List (List α)} {i : Nat} (a : α) (h : i < rows.length) :
    (rows.modify i (a :: ·)).flatten.Perm (a :: rows.flatten) := by
  rw [List.modify_eq_take_cons_drop h, flatten_split h, List.flatten_append, List.flatten_cons, List.cons_append]
  exact List.perm_middle

/-- The rows together hold each entry once. -/
theorem perm_flatten_rowsOf {n : Nat} {entries : List (Nat × α)} (h : ∀ entry ∈ entries, entry.1 < n) :
    (rowsOf n entries).flatten.Perm (entries.map (·.2)) := by
  induction entries with
  | nil => simp [rowsOf, List.map_const']
  | cons entry entries ih =>
    rw [rowsOf_cons, List.map_cons]
    have inside : entry.1 < (rowsOf n entries).length := by simpa [rowsOf] using h _ List.mem_cons_self
    exact (perm_flatten_modify_cons _ inside).trans ((ih fun e he => h e (List.mem_cons_of_mem _ he)).cons _)

theorem row?_gathered {n k : Nat} (h : k < n) (entries : List (Nat × α)) :
    (ofRows (rowsOf n entries)).row? k = some (entered k entries) := by
  simp [rowsOf, List.getElem?_range h]

end Ragged

end Roadside
