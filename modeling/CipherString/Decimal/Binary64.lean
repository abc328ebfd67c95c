namespace CipherString.Decimal

inductive Binary64 where
  | notANumber
  | infinite (negative : Bool)
  | finite (negative : Bool) (mantissa : Nat) (exponent : Int)
  deriving DecidableEq, Repr

/-- Reads the sign, the eleven bits of the exponent and the 52 of the fraction. -/
def Binary64.ofBits (bits : Nat) : Binary64 :=
  let negative := (bits >>> 63) % 2 == 1
  let exponent : Nat := (bits >>> 52) % 2048
  let fraction := bits % (1 <<< 52)
  if exponent = 2047 then
    if fraction = 0 then infinite negative else notANumber
  else if exponent = 0 then finite negative fraction (-1074)
  else finite negative ((1 <<< 52) + fraction) ((exponent : Int) - 1075)

def Binary64.ofFloat (x : Float) : Binary64 :=
  ofBits x.toBits.toNat

/-- The magnitude `mantissa * 2 ^ exponent` as a numerator and a denominator. -/
def Binary64.fraction (mantissa : Nat) (exponent : Int) : Nat × Nat :=
  (mantissa <<< exponent.toNat, 1 <<< (-exponent).toNat)

def Binary64.value? : Binary64 → Option Rat
  | finite negative mantissa exponent =>
    let (numerator, denominator) := fraction mantissa exponent
    let magnitude : Rat := mkRat numerator denominator
    some (if negative then -magnitude else magnitude)
  | _ => none

/-- The nearest floating-point number to an integer, unless the integer is beyond their range. -/
def ofInt? (n : Int) : Option Float :=
  let x := Float.ofInt n
  if x.isInf then none else some x

end CipherString.Decimal
