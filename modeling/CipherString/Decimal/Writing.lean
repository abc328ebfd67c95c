import CipherString.Text.Blank

namespace CipherString.Decimal

/-- The number of digits up to which a whole number is read and written. -/
def maxDigits : Nat := 4300

/-- Digits with the last `places` of them apart, and with zeros in front if there are too few. -/
def split (digits : List Char) (places : Nat) : List Char × List Char :=
  let padded := List.replicate (places + 1 - digits.length) '0' ++ digits
  padded.splitAt (padded.length - places)

/-- Digits without the zeros at their end. -/
def significant (digits : List Char) : List Char :=
  Text.dropEndWhile (· == '0') digits

/-- A number with a point before its last `places` digits, and at least one digit behind it. -/
def positional (digits : List Char) (places : Nat) : List Char :=
  let (integer, fraction) := split digits places
  let fraction := significant fraction
  integer ++ '.' :: (if fraction.isEmpty then ['0'] else fraction)

/-- A number with a point behind its first digit, unless that is the only one, and with the power of
ten by which it is multiplied, in two digits or more. -/
def scientific (digits : List Char) (power : Int) : List Char :=
  let point := match digits with
    | first :: second :: rest => first :: '.' :: second :: rest
    | short => short
  let powerDigits := Nat.toDigits 10 power.natAbs
  point ++ 'e' :: (if power < 0 then '-' else '+') ::
    (List.replicate (2 - powerDigits.length) '0' ++ powerDigits)

/-- The text of a decimal number of magnitude `value / 10 ^ places`. It is written with a power of
ten from `10 ^ 16` on, and below `10 ^ -4` unless it is zero. -/
def write (negative : Bool) (value places : Nat) : String :=
  let digits := Nat.toDigits 10 value
  let power : Int := digits.length - 1 - places
  let magnitude :=
    if value ≠ 0 ∧ (power < -4 ∨ 16 ≤ power) then scientific (significant digits) power
    else positional digits places
  String.ofList (if negative then '-' :: magnitude else magnitude)

example : write false 125 2 = "1.25" ∧ write true 0 7 = "-0.0" ∧ write false 1 5 = "1e-05" ∧
    write false (15 * 10 ^ 21) 0 = "1.5e+22" := by
  decide +kernel

end CipherString.Decimal
