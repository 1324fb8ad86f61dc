import Roadside.Decimal.Shortest

/-!
# Decimal text of doubles

Two ways to write a double: with the fewest digits that read back (`Style.text`), and with a fixed number of places
(`fixedPlaces`). A negative sign is kept, also of zero, and the values that are no finite number have names.
-/

namespace Roadside.Decimal

/-- The text of a double, given the text of its magnitude `significand * 2 ^ exponent`. -/
def signed (magnitude : Nat → Int → String) (x : Float) : String :=
  match Binary64.ofFloat x with
  | .nan => "NaN"
  | .infinite negative => if negative then "-inf" else "inf"
  | .finite negative m q => (if negative then "-" else "") ++ magnitude m q

/-! ## The fewest digits -/

/-- How the fewest digits are laid out. -/
structure Style where
  /-- A whole number is written with a zero after the point. -/
  keepsPoint : Bool
  /-- The powers of ten of the leading digit for which no exponent is written; nothing here means all. -/
  positional : Option (Int × Int)

namespace Style

/-- No exponent, and no point without need. -/
def plain : Style := ⟨false, none⟩

/-- Always a point, and an exponent below `0.0001` and from `10 ^ 16` on. -/
def detailed : Style := ⟨true, some (-4, 15)⟩

/-- Digits with the point in its place; `point` of them stand before it. -/
def layPositional (style : Style) (digits : List Char) (point : Int) : String :=
  let whole := if point ≤ 0 then ['0'] else (digits.take point.toNat).rightpad point.toNat '0'
  let places := List.replicate (-point).toNat '0' ++ digits.drop point.toNat
  let places := if places.isEmpty && style.keepsPoint then ['0'] else places
  String.ofList (if places.isEmpty then whole else whole ++ '.' :: places)

/-- One digit before the point, then the power of ten that the leading digit stands for. -/
def layScientific (digits : List Char) (leading : Int) : String :=
  let places := digits.drop 1
  String.ofList (digits.take 1 ++ if places.isEmpty then [] else '.' :: places) ++ "e" ++ toString leading

def magnitude (style : Style) (m : Nat) (q : Int) : String :=
  if m = 0 then style.layPositional [] 0
  else
    let decimal := shortest m q
    let digits := Nat.toDigits 10 decimal.value
    let point := digits.length + decimal.exponent
    let significant := (digits.reverse.dropWhile (· = '0')).reverse
    if style.positional.all fun (low, high) => low ≤ point - 1 && point - 1 ≤ high then
      style.layPositional significant point
    else layScientific significant (point - 1)

/-- The fewest digits that read back as the same double. -/
def text (style : Style) (x : Float) : String := signed style.magnitude x

end Style

/-! ## A fixed number of places -/

/-- The whole number nearest to a quotient; a half goes to the even neighbour. -/
def roundHalfEven (num den : Nat) : Nat :=
  let below := num / den
  let rest := 2 * (num % den)
  if rest < den ∨ rest = den ∧ below % 2 = 0 then below else below + 1

/-- The number `m * 2 ^ q`, rounded to so many places. -/
def fixedMagnitude (places m : Nat) (q : Int) : String :=
  let scale := Nat.pow 10 places
  let rounded := roundHalfEven (m * scale * Nat.pow 2 q.toNat) (Nat.pow 2 (-q).toNat)
  let fraction := (Nat.toDigits 10 (rounded % scale)).leftpad places '0'
  toString (rounded / scale) ++ "." ++ String.ofList fraction

/-- A double rounded to a positive number of places. -/
def fixedPlaces (places : Nat) (x : Float) : String := signed (fixedMagnitude places) x

end Roadside.Decimal
