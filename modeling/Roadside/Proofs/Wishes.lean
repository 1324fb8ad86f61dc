import Mathlib.Data.List.DropRight
import Mathlib.Data.List.Forall2
import Roadside.Wording

/-!
# Wishes

A wish for a side of the road is written as a word between blanks, in letters of either case. What is between the
blanks is the core of the text; it is what a complaint about the text quotes.

* **Trimming leaves the core** (`Text.isCore_trim`): the longest part without a blank at its ends. More blanks around a
  text make no difference to it (`Text.trim_append_blanks`).
* **Small forms** (`Text.sameLetters_iff`): texts have the same letters iff their small forms are equal, and only ASCII
  letters have two forms.
* **The words and nothing else** (`Preference.ofText_eq_ok_iff`, `Preference.ofText_readsWishes`).
-/

namespace Roadside

namespace Text

/-! ## Cores -/

/-- Nothing but blanks. -/
def AllBlank (cs : List Char) : Prop := ∀ c ∈ cs, isBlank c = true

/-- There is no blank at either end. -/
structure IsBare (cs : List Char) : Prop where
  first : ∀ c ∈ cs.head?, isBlank c = false
  last : ∀ c ∈ cs.getLast?, isBlank c = false

/-- The longest part of a text that has no blank at either end. -/
structure IsCore (core cs : List Char) : Prop where
  part : core <:+: cs
  bare : IsBare core
  longest : ∀ other, other <:+: cs → IsBare other → other = core ∨ other.length < core.length

section Cores

variable {cs before after part : List Char}

theorem trim_eq (cs : List Char) : trim cs = (trimStart cs).rdropWhile isBlank := rfl

theorem exists_blanks (cs : List Char) :
    ∃ before after, AllBlank before ∧ AllBlank after ∧ cs = before ++ trim cs ++ after := by
  refine ⟨cs.takeWhile isBlank, (trimStart cs).rtakeWhile isBlank, fun c hc => List.mem_takeWhile_imp hc,
    fun c hc => List.mem_rtakeWhile_imp hc, ?_⟩
  rw [List.append_assoc, trim_eq, List.rdropWhile_append_rtakeWhile, trimStart, List.takeWhile_append_dropWhile]

theorem isBare_trim (cs : List Char) : IsBare (trim cs) := by
  constructor
  case first =>
    intro c hc
    obtain ⟨rest, here⟩ := List.head?_eq_some_iff.1 hc
    obtain ⟨after, whole⟩ := List.rdropWhile_prefix isBlank (trimStart cs)
    rw [← trim_eq, here] at whole
    exact head_trimStart whole.symm
  case last =>
    intro c hc
    obtain ⟨ne, rfl⟩ := List.mem_getLast?_eq_getLast hc
    exact Bool.eq_false_iff.2 (List.rdropWhile_last_not isBlank (trimStart cs) ne)

theorem rdropWhile_append_blanks (h : AllBlank after) : (cs ++ after).rdropWhile isBlank = cs.rdropWhile isBlank := by
  have backwards : ∀ c ∈ after.reverse, isBlank c = true := fun c hc => h c (List.mem_reverse.1 hc)
  rw [List.rdropWhile, List.reverse_append, List.dropWhile_append_of_pos backwards, List.rdropWhile]

/-- Blanks around a text are left out with its own. -/
theorem trim_append_blanks (hbefore : AllBlank before) (hafter : AllBlank after) :
    trim (before ++ cs ++ after) = trim cs := by
  rw [trim_eq, trim_eq, List.append_assoc, trimStart, List.dropWhile_append_of_pos hbefore, List.dropWhile_append]
  split
  case isTrue blank =>
    have nothing : trimStart cs = [] := List.isEmpty_iff.1 blank
    rw [nothing, List.dropWhile_eq_nil_iff.2 hafter]
  case isFalse => exact rdropWhile_append_blanks hafter

/-- A part that does not begin with a blank is still there when the blanks at the start are left out. -/
theorem isInfix_trimStart (h : part <:+: cs) (first : ∀ c ∈ part.head?, isBlank c = false) :
    part <:+: trimStart cs := by
  induction cs with
  | nil => exact h
  | cons c cs ih =>
    unfold trimStart
    by_cases blank : isBlank c = true
    · rw [List.dropWhile_cons_of_pos blank]
      obtain start | inside := List.infix_cons_iff.1 h
      · cases part with
        | nil => exact List.nil_infix
        | cons d part =>
          obtain ⟨rfl, -⟩ := List.cons_prefix_cons.1 start
          simp [blank] at first
      · exact ih inside
    · rwa [List.dropWhile_cons_of_neg blank]

theorem isInfix_trim (h : part <:+: cs) (bare : IsBare part) : part <:+: trim cs := by
  have start : part <:+: trimStart cs := isInfix_trimStart h bare.first
  have backwards : part.reverse <:+: trimStart (trimStart cs).reverse :=
    isInfix_trimStart (List.reverse_infix.2 start) (by simpa using bare.last)
  rwa [← List.reverse_infix, List.reverse_reverse] at backwards

theorem isCore_trim (cs : List Char) : IsCore (trim cs) cs := by
  obtain ⟨before, after, -, -, framed⟩ := exists_blanks cs
  refine ⟨⟨before, after, framed.symm⟩, isBare_trim cs, fun other h bare => ?_⟩
  have inside : other <:+: trim cs := isInfix_trim h bare
  exact inside.length_le.eq_or_lt.imp_left inside.eq_of_length

end Cores

/-! ## Letters -/

/-- A capital ASCII letter and its small form. -/
def IsCapitalOf (c d : Char) : Prop := 'A' ≤ c ∧ c ≤ 'Z' ∧ d.toNat = c.toNat + 32

/-- The same character, or the two forms of one ASCII letter. -/
def SameLetter (c d : Char) : Prop := c = d ∨ IsCapitalOf c d ∨ IsCapitalOf d c

/-- One text is the other one, but for the case of its ASCII letters. -/
def SameLetters : List Char → List Char → Prop := List.Forall₂ SameLetter

theorem isCapitalOf_iff {c d : Char} : IsCapitalOf c d ↔ 65 ≤ c.toNat ∧ c.toNat ≤ 90 ∧ d.toNat = c.toNat + 32 :=
  Iff.rfl

theorem toNat_toLower (c : Char) :
    c.toLower.toNat = if 65 ≤ c.toNat ∧ c.toNat ≤ 90 then c.toNat + 32 else c.toNat := by
  have capital : (c.val ≥ 'A'.val ∧ c.val ≤ 'Z'.val) ↔ 65 ≤ c.toNat ∧ c.toNat ≤ 90 := Iff.rfl
  unfold Char.toLower
  split
  case isTrue h =>
    have below : c.toNat ≤ 90 := (capital.1 h).2
    have sum : (c.val + ('a'.val - 'A'.val)).toNat = (c.toNat + 32) % 2 ^ 32 := UInt32.toNat_add ..
    rw [if_pos (capital.1 h)]
    exact sum.trans (Nat.mod_eq_of_lt (by omega))
  case isFalse h => rw [if_neg (mt capital.2 h)]

theorem sameLetter_iff {c d : Char} : SameLetter c d ↔ c.toLower = d.toLower := by
  simp only [SameLetter, isCapitalOf_iff, ← Char.toNat_inj, toNat_toLower]
  grind

theorem sameLetters_iff {a b : List Char} : SameLetters a b ↔ a.map Char.toLower = b.map Char.toLower := by
  have same : SameLetter = fun c d => c.toLower = d.toLower := by
    ext c d
    exact sameLetter_iff
  rw [← List.forall₂_eq_eq_eq, List.forall₂_map_left_iff, List.forall₂_map_right_iff, SameLetters, same]

theorem isBlank_of_letter {c : Char} (low : 65 ≤ c.toNat) (high : c.toNat ≤ 122) : isBlank c = false := by
  have apart : ∀ range ∈ blankRanges, range.2 < 65 ∨ 122 < range.1 := by decide
  rw [isBlank, List.any_eq_false]
  intro range listed
  have := apart range listed
  simp only [Bool.and_eq_true, decide_eq_true_eq]
  omega

theorem isBlank_toLower (c : Char) : isBlank c.toLower = isBlank c := by
  by_cases capital : 65 ≤ c.toNat ∧ c.toNat ≤ 90
  · have small : c.toLower.toNat = c.toNat + 32 := by rw [toNat_toLower, if_pos capital]
    rw [isBlank_of_letter capital.1 (by omega), isBlank_of_letter (by omega) (by omega)]
  · have same : c.toLower = c := Char.toNat_inj.1 (by rw [toNat_toLower, if_neg capital])
    rw [same]

theorem trimStart_map_toLower (cs : List Char) :
    trimStart (cs.map Char.toLower) = (trimStart cs).map Char.toLower := by
  rw [trimStart, List.dropWhile_map, show isBlank ∘ Char.toLower = isBlank from funext isBlank_toLower, trimStart]

/-- The case of letters makes no difference to where a text begins and ends. -/
theorem trim_map_toLower (cs : List Char) : trim (cs.map Char.toLower) = (trim cs).map Char.toLower := by
  simp only [trim, trimStart_map_toLower, ← List.map_reverse]

end Text

/-! ## Words -/

namespace Preference

open Text

/-- The words for the preferences. To say nothing is to want any side. -/
inductive IsWordFor : String → Preference → Prop
  | nothing : IsWordFor "" .any
  | any : IsWordFor "any" .any
  | right : IsWordFor "right" (.on .right)
  | left : IsWordFor "left" (.on .left)

/-- The text is a word for the preference between blanks, in letters of either case. -/
inductive IsWrittenAs (p : Preference) : String → Prop
  | between {before spelt after word : String} (known : IsWordFor word p)
      (letters : SameLetters spelt.toList word.toList) (start : AllBlank before.toList)
      (finish : AllBlank after.toList) : IsWrittenAs p (before ++ spelt ++ after)

/-- How preferences are to be read. -/
structure ReadsWishes (read : String → Except (Fault Float) Preference) : Prop where
  accepts : ∀ text p, read text = .ok p ↔ p.IsWrittenAs text
  /-- A complaint about any other text quotes its core as it was written. -/
  quotes : ∀ text, (∀ p : Preference, ¬p.IsWrittenAs text) → ∃ (core : String) (fault : Fault Float),
    IsCore core.toList text.toList ∧ read text = .error fault ∧
      fault.message = "parse error: unknown curbside '" ++ core ++ "', allowed: right, left, any"
  /-- Blanks around a text make no difference. -/
  blanks : ∀ before text after : String, AllBlank before.toList → AllBlank after.toList →
    read (before ++ text ++ after) = read text
  /-- Letters of the other case make no difference to what is accepted. -/
  letters : ∀ (text other : String) (p : Preference), SameLetters text.toList other.toList →
    (read text = .ok p ↔ read other = .ok p)
  /-- What is written for a preference is read as this preference. -/
  own : ∀ p : Preference, read p.text = .ok p

variable {K : Type} {p : Preference} {word text : String}

theorem map_toLower_word (known : IsWordFor word p) : word.toList.map Char.toLower = word.toList := by
  cases known <;> rfl

theorem trim_word (known : IsWordFor word p) : trim word.toList = word.toList := by
  cases known <;> rfl

theorem ofWord?_eq_some_iff {cs : List Char} : ofWord? cs = some p ↔ ∃ word, IsWordFor word p ∧ cs = word.toList := by
  constructor
  · intro h
    unfold ofWord? at h
    split at h
    case isTrue here =>
      obtain rfl := Option.some.inj h
      obtain rfl | rfl := here
      · exact ⟨_, .nothing, rfl⟩
      · exact ⟨_, .any, rfl⟩
    case isFalse =>
      split at h
      case isTrue here =>
        obtain rfl := Option.some.inj h
        exact ⟨_, .right, here⟩
      case isFalse =>
        obtain ⟨here, h⟩ := Option.ite_none_right_eq_some.1 h
        obtain rfl := Option.some.inj h
        exact ⟨_, .left, here⟩
  · rintro ⟨word, known, rfl⟩
    cases known <;> rfl

/-- What is written between the blanks is the core of the text. -/
theorem isWrittenAs_iff :
    p.IsWrittenAs text ↔ ∃ word, IsWordFor word p ∧ (trim text.toList).map Char.toLower = word.toList := by
  constructor
  · rintro @⟨before, spelt, after, word, known, letters, start, finish⟩
    refine ⟨word, known, ?_⟩
    calc
      (trim (before ++ spelt ++ after).toList).map Char.toLower = (trim spelt.toList).map Char.toLower := by
        rw [String.toList_append, String.toList_append, trim_append_blanks start finish]
      _ = trim (word.toList.map Char.toLower) := by rw [← trim_map_toLower, sameLetters_iff.1 letters]
      _ = word.toList := by rw [map_toLower_word known, trim_word known]
  · rintro ⟨word, known, same⟩
    obtain ⟨before, after, start, finish, framed⟩ := exists_blanks text.toList
    have whole : text = String.ofList before ++ String.ofList (trim text.toList) ++ String.ofList after := by
      rw [← String.toList_inj]
      simpa only [String.toList_append, String.toList_ofList] using framed
    have letters : SameLetters (trim text.toList) word.toList := by
      rw [sameLetters_iff, same, map_toLower_word known]
    rw [whole]
    refine .between known ?_ ?_ ?_ <;> simpa only [String.toList_ofList]

theorem ofText_eq_ok_iff : (ofText text : Except (Fault K) Preference) = .ok p ↔ p.IsWrittenAs text := by
  rw [isWrittenAs_iff, ← ofWord?_eq_some_iff, ofText]
  cases ofWord? ((trim text.toList).map Char.toLower) with
  | none => simp
  | some q => simp

theorem ofText_eq_error {fault : Fault K} (h : ofText text = .error fault) :
    fault = .unknownPreference (String.ofList (trim text.toList)) := by
  unfold ofText at h
  dsimp only at h
  split at h
  · cases h
  · exact (Except.error.inj h).symm

/-- **The words and nothing else**: a text is read as a preference iff it is a word for it between blanks, in letters of
either case, and a complaint about any other text quotes its core. -/
theorem ofText_readsWishes : ReadsWishes ofText := by
  constructor
  case accepts => exact fun _ _ => ofText_eq_ok_iff
  case quotes =>
    intro text unwritten
    cases read : (ofText text : Except (Fault Float) Preference) with
    | ok p => exact absurd (ofText_eq_ok_iff.1 read) (unwritten p)
    | error fault =>
      obtain rfl := ofText_eq_error read
      refine ⟨String.ofList (trim text.toList), _, ?_, rfl, rfl⟩
      rw [String.toList_ofList]
      exact isCore_trim text.toList
  case blanks =>
    intro before text after start finish
    rw [ofText, String.toList_append, String.toList_append, trim_append_blanks start finish, ofText]
  case letters =>
    intro text other p same
    rw [ofText_eq_ok_iff, ofText_eq_ok_iff, isWrittenAs_iff, isWrittenAs_iff, ← trim_map_toLower, ← trim_map_toLower,
      sameLetters_iff.1 same]
  case own => exact ofText_text

example : (ofText "\u3000LeFt\n" : Except (Fault Float) Preference) = .ok (.on .left) := by rfl

-- the small form of no ASCII letter
example : (ofText " Rıght " : Except (Fault Float) Preference) = .error (.unknownPreference "Rıght") := by rfl

end Preference

end Roadside
