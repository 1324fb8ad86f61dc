import Roadside.Wording

/-!
# Phrases

Nodes, edges and places are named in texts (`nodeName`, `edgeName`, `placeName`), and directions are put into words: a
first letter for the kind, fixed words, the side where there is only one, and the numbers of the edges with marks
between them.

* **Every piece shows its end**: whatever is put after a number and its mark, after a side or after a pairing, the piece
  and what comes after it can be told (`number_append_inj`, `nodeName_append_inj`, `edgeName_append_inj`,
  `Side.text_append_inj`, `Pairing.text_append_inj`).
* **Some show where they begin** as well, whatever is put before them (`append_number_inj`, `append_edgeName_inj`,
  `append_sideName_inj`).
* Directions show their end (`Directions.text_append_inj`): no text of directions is the beginning of another one.
* **The text tells the directions** (`Directions.text_inj`): their kind, the side and the edge in every place.
-/

namespace Roadside

/-! ## Pieces -/

section Pieces

variable {r s : String}

theorem isDigit_of_mem_toDigits {n : Nat} {d : Char} (hd : d ∈ Nat.toDigits 10 n) : d.isDigit = true :=
  Nat.isDigit_of_mem_toDigits (by decide) (by decide) hd

theorem eq_of_toDigits_eq {m n : Nat} (h : Nat.toDigits 10 m = Nat.toDigits 10 n) : m = n := by
  rw [← Nat.ofDigitChars_ten_toDigits (n := m), h, Nat.ofDigitChars_ten_toDigits]

/-- Digits go on until something else comes. -/
theorem takeWhile_digits_append {digits : List Char} (all : ∀ d ∈ digits, d.isDigit = true) {c : Char}
    (stops : c.isDigit = false) (rest : List Char) : (digits ++ c :: rest).takeWhile Char.isDigit = digits := by
  rw [List.takeWhile_append_of_pos all, List.takeWhile_cons_of_neg (by simp [stops]), List.append_nil]

/-- A mark that begins with anything but a digit shows where the number before it ends. -/
theorem number_append_inj {m n : Nat} (mark : String) (stops : mark.toList.head?.all Char.isDigit = false) :
    toString m ++ (mark ++ r) = toString n ++ (mark ++ s) ↔ m = n ∧ r = s := by
  constructor
  · intro h
    obtain ⟨c, rest, begins⟩ : ∃ c rest, mark.toList = c :: rest := by
      cases here : mark.toList with
      | nil => simp [here] at stops
      | cons c rest => exact ⟨c, rest, rfl⟩
    have stop : c.isDigit = false := by simpa [begins] using stops
    have read (k : Nat) (text : String) : (toString k ++ (mark ++ text)).toList.takeWhile Char.isDigit =
        Nat.toDigits 10 k := by
      simp only [String.toList_append, Nat.toString_eq_repr, Nat.toList_repr, begins, List.cons_append]
      exact takeWhile_digits_append (fun _ => isDigit_of_mem_toDigits) stop _
    obtain rfl : m = n := eq_of_toDigits_eq (by rw [← read m r, h, read])
    exact ⟨rfl, by simpa only [String.append_right_inj] using h⟩
  · rintro ⟨rfl, rfl⟩
    rfl

/-- A mark that ends with anything but a digit shows where the number after it begins. -/
theorem append_number_inj {m n : Nat} (mark : String) (stops : mark.toList.getLast?.all Char.isDigit = false) :
    r ++ mark ++ toString m = s ++ mark ++ toString n ↔ r = s ∧ m = n := by
  constructor
  · intro h
    obtain ⟨rest, c, ends⟩ : ∃ rest c, mark.toList = rest ++ [c] := by
      obtain none | ⟨rest, c, ends⟩ := mark.toList.eq_nil_or_concat
      · simp [none] at stops
      · exact ⟨rest, c, by simpa using ends⟩
    have stop : c.isDigit = false := by simpa [ends] using stops
    -- the number is read from the end of the text
    have read (k : Nat) (text : String) : (text ++ mark ++ toString k).toList.reverse.takeWhile Char.isDigit =
        (Nat.toDigits 10 k).reverse := by
      simp only [String.toList_append, Nat.toString_eq_repr, Nat.toList_repr, ends, List.reverse_append,
        List.reverse_singleton, List.cons_append]
      exact takeWhile_digits_append (fun _ hd => isDigit_of_mem_toDigits (List.mem_reverse.1 hd)) stop _
    obtain rfl : m = n := eq_of_toDigits_eq (List.reverse_inj.1 (by rw [← read m r, h, read]))
    exact ⟨by simpa only [String.append_left_inj] using h, rfl⟩
  · rintro ⟨rfl, rfl⟩
    rfl

theorem Side.text_append_inj {a b : Side} : a.text ++ r = b.text ++ s ↔ a = b ∧ r = s := by
  cases a <;> cases b
  case right.right | left.left => simp
  all_goals simp [text, ← String.toList_inj]

theorem Pairing.text_append_inj {p q : Pairing} : p.text ++ r = q.text ++ s ↔ p = q ∧ r = s := by
  obtain ⟨arrive, depart⟩ := p
  obtain ⟨arrive', depart'⟩ := q
  simp only [text, String.append_assoc, String.append_right_inj, number_append_inj ", out: " rfl,
    number_append_inj ")" rfl, Ident.index_inj, mk.injEq, and_assoc]

/-! ### Names -/

def nodeName (node : NodeId) : String := "NodeId(" ++ toString node.index ++ ")"

def edgeName (edge : EdgeId) : String := "EdgeId(" ++ toString edge.index ++ ")"

/-- A place is named by its position in degrees, to six places. -/
def placeName (p : Point Float) : String :=
  "(" ++ Decimal.fixedPlaces 6 p.lat ++ ", " ++ Decimal.fixedPlaces 6 p.lon ++ ")"

def headingName (h : Heading Float) : String :=
  "Heading \x7b dx: " ++ Decimal.Style.detailed.text h.dx ++ ", dy: " ++ Decimal.Style.detailed.text h.dy ++ " \x7d"

def sideName (side : Side) : String := if side = .right then "right" else "left"

theorem nodeName_append_inj {a b : NodeId} : nodeName a ++ r = nodeName b ++ s ↔ a = b ∧ r = s := by
  simp only [nodeName, String.append_assoc, String.append_right_inj, number_append_inj ")" rfl, Ident.index_inj]

theorem edgeName_append_inj {a b : EdgeId} : edgeName a ++ r = edgeName b ++ s ↔ a = b ∧ r = s := by
  simp only [edgeName, String.append_assoc, String.append_right_inj, number_append_inj ")" rfl, Ident.index_inj]

theorem append_edgeName_inj {a b : EdgeId} : r ++ edgeName a = s ++ edgeName b ↔ r = s ∧ a = b := by
  simp only [edgeName, ← String.append_assoc, String.append_left_inj, append_number_inj "EdgeId(" rfl, Ident.index_inj]

theorem append_sideName_inj {a b : Side} : r ++ sideName a = s ++ sideName b ↔ r = s ∧ a = b := by
  cases a <;> cases b
  case right.right | left.left => simp [String.append_left_inj]
  all_goals
    simp only [sideName, reduceCtorEq, and_false, iff_false]
    intro h
    have backward := congrArg (·.toList.reverse) h
    simp at backward

end Pieces

/-! ## Directions -/

namespace Directions

variable {d e : Directions} {r s : String}

theorem text_both_append (right left : Pairing) (r : String) : (both right left).text ++ r =
    "restricted: right = " ++ (right.text ++ (", left = " ++ (left.text ++ r))) := by
  rw [show (both right left).text = "restricted: right = " ++ right.text ++ ", left = " ++ left.text from rfl]
  simp only [String.append_assoc]

theorem text_only_append (side : Side) (pairing : Pairing) (r : String) : (only side pairing).text ++ r =
    "only " ++ (side.text ++ (": " ++ (pairing.text ++ r))) := by
  rw [show (only side pairing).text = "only " ++ side.text ++ ": " ++ pairing.text from rfl]
  simp only [String.append_assoc]

/-- The letter that tells the kind. -/
def initial : Directions → Char
  | .impossible => 'i'
  | .unrestricted => 'u'
  | .both _ _ => 'r'
  | .only _ _ => 'o'

theorem head?_text_append (d : Directions) (r : String) : (d.text ++ r).toList.head? = some d.initial := by
  cases d with
  | impossible | unrestricted =>
    rw [String.toList_append]
    rfl
  | both right left =>
    rw [text_both_append, String.toList_append]
    rfl
  | only side pairing =>
    rw [text_only_append, String.toList_append]
    rfl

/-- Directions show where they end. -/
theorem text_append_inj : d.text ++ r = e.text ++ s ↔ d = e ∧ r = s := by
  constructor
  · intro h
    have initials : d.initial = e.initial := by
      rw [← Option.some.injEq, ← head?_text_append d r, h, head?_text_append]
    cases d <;> cases e
    case impossible.impossible | unrestricted.unrestricted => exact ⟨rfl, (String.append_right_inj _).1 h⟩
    case both.both =>
      rw [text_both_append, text_both_append] at h
      obtain ⟨rfl, rfl, rfl⟩ : _ ∧ _ ∧ r = s := by
        simpa only [String.append_right_inj, Pairing.text_append_inj] using h
      exact ⟨rfl, rfl⟩
    case only.only =>
      rw [text_only_append, text_only_append] at h
      obtain ⟨rfl, rfl, rfl⟩ : _ ∧ _ ∧ r = s := by
        simpa only [String.append_right_inj, Side.text_append_inj, Pairing.text_append_inj] using h
      exact ⟨rfl, rfl⟩
    -- directions of two kinds begin with different letters
    all_goals simp [initial] at initials
  · rintro ⟨rfl, rfl⟩
    rfl

/-- **The text tells the directions**: equal texts are texts of equal directions. -/
theorem text_inj : d.text = e.text ↔ d = e := by
  have shown : d.text ++ "" = e.text ++ "" ↔ d = e ∧ "" = "" := text_append_inj
  simpa only [String.append_empty, and_true] using shown

end Directions

end Roadside
