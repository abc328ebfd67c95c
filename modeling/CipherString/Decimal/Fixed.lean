import CipherString.Decimal.Binary64
import CipherString.Decimal.Writing

namespace CipherString.Decimal

/-- The integer nearest to `numerator / denominator`; a half goes to the even neighbour. -/
def roundDiv (numerator denominator : Nat) : Nat :=
  let quotient := numerator / denominator
  let twice := 2 * (numerator % denominator)
  if twice < denominator then quotient
  else if denominator < twice then quotient + 1
  else quotient + quotient % 2

def grouped (digits : List Char) : List Char :=
  match digits with
  | [] => []
  | d :: rest =>
    if rest.length ≠ 0 ∧ rest.length % 3 = 0 then d :: ',' :: grouped rest else d :: grouped rest

/-- How a number is written: its places, and whether its digits are grouped. -/
structure FixedStyle where
  places : Nat
  commas : Bool

/-- The digits of a magnitude that has been multiplied by `10 ^ places` and rounded. -/
def FixedStyle.digits (style : FixedStyle) (scaled : Nat) : List Char :=
  let (integer, fraction) := split (Nat.toDigits 10 scaled) style.places
  let written := if style.commas then grouped integer else integer
  if style.places = 0 then written else written ++ '.' :: fraction

def FixedStyle.write (style : FixedStyle) (x : Float) : String :=
  let signed (negative : Bool) (cs : List Char) :=
    String.ofList (if negative then '-' :: cs else cs)
  match Binary64.ofFloat x with
  | .notANumber => "nan"
  | .infinite negative => signed negative ['i', 'n', 'f']
  | .finite negative mantissa exponent =>
    let (numerator, denominator) := Binary64.fraction mantissa exponent
    signed negative (style.digits (roundDiv (numerator * Nat.pow 10 style.places) denominator))

end CipherString.Decimal
