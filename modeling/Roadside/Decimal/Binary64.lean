/-!
# The exact value of a double

A finite double is a whole number times a power of two. Decimal text is made from these two numbers, in exact
arithmetic.
-/

namespace Roadside.Decimal

/-- What a double stands for. -/
inductive Binary64 where
  | nan
  | infinite (negative : Bool)
  /-- The number `significand * 2 ^ exponent`, with a sign that zero has too. -/
  | finite (negative : Bool) (significand : Nat) (exponent : Int)
  deriving DecidableEq

namespace Binary64

/-- The least significand of a double that is not too small for a full one. -/
def hidden : Nat := 1 <<< 52

/-- Reads sign, exponent and fraction from the 64 bits of the interchange format. -/
def ofBits (bits : Nat) : Binary64 :=
  let negative := bits >>> 63 % 2 == 1
  let scale := bits >>> 52 % 2048
  let fraction := bits % hidden
  if scale = 2047 then if fraction = 0 then .infinite negative else .nan
  else if scale = 0 then .finite negative fraction (-1074)
  else .finite negative (hidden + fraction) ((scale : Int) - 1075)

def ofFloat (x : Float) : Binary64 := ofBits x.toBits.toNat

end Binary64

end Roadside.Decimal
