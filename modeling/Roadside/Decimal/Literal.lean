/-!
# Reading numbers

A number is a sign, digits with at most one point among them, and a power of ten, the first and the last of which may
be left out; or the name of an infinity or of the value that is no number. It is read as the nearest double.
-/

namespace Roadside.Decimal

/-- Why a text is no number. -/
inductive LiteralFault where
  | empty
  | invalid
  deriving DecidableEq

/-- The number `digits * 10 ^ exponent`. -/
structure Literal where
  digits : Nat
  exponent : Int
  deriving DecidableEq

namespace Literal

/-- The whole number that a row of digits stands for. -/
def wholeOf (cs : List Char) : Nat := cs.foldl (fun n c => 10 * n + (c.toNat - '0'.toNat)) 0

/-- A sign, if there is one, and what follows; the sign is negative or not. -/
def splitSign : List Char → Bool × List Char
  | '-' :: rest => (true, rest)
  | '+' :: rest => (false, rest)
  | cs => (false, cs)

/-- The power of ten at the end of a number. -/
def exponentOf? : List Char → Option Int
  | [] => some 0
  | c :: rest =>
    let (negative, digits) := splitSign rest
    if (c = 'e' ∨ c = 'E') ∧ digits ≠ [] ∧ digits.all Char.isDigit then
      some (if negative then -(wholeOf digits : Int) else wholeOf digits)
    else none

/-- Reads a number without a sign. -/
def ofText? (cs : List Char) : Option Literal :=
  let (whole, rest) := cs.span Char.isDigit
  let (places, rest) := match rest with
    | '.' :: rest => rest.span Char.isDigit
    | _ => ([], rest)
  if whole = [] ∧ places = [] then none
  else (exponentOf? rest).map fun e => ⟨wholeOf (whole ++ places), e - places.length⟩

/-- The nearest double. A number whose leading digit is far out of the range of doubles is not scaled at all. -/
def toFloat (l : Literal) : Float :=
  let leading := (Nat.toDigits 10 l.digits).length + l.exponent
  if l.digits = 0 ∨ leading < -400 then 0
  else if 400 < leading then Float.ofBits 0x7FF0000000000000
  else Float.ofScientific l.digits (l.exponent < 0) l.exponent.natAbs

end Literal

/-- Reads the magnitude of a double: a number without a sign, or a name in any case. -/
def magnitudeOfText? (cs : List Char) : Option Float :=
  let word := cs.map Char.toLower
  if word = "inf".toList ∨ word = "infinity".toList then some (Float.ofBits 0x7FF0000000000000)
  else if word = "nan".toList then some (Float.ofBits 0x7FF8000000000000)
  else (Literal.ofText? cs).map Literal.toFloat

/-- Reads a double. -/
def floatOfText (text : String) : Except LiteralFault Float :=
  if text.isEmpty then .error .empty
  else
    let (negative, rest) := Literal.splitSign text.toList
    match magnitudeOfText? rest with
    | some x => .ok (if negative then -x else x)
    | none => .error .invalid

end Roadside.Decimal
