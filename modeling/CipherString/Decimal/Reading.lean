import CipherString.Decimal.Writing

/-!
Numbers written in a text: integers, and decimal numbers with the words for infinity and for what
is no number. White space around a number does not count, digits may be of any script, and an
underscore may stand between two digits.
-/

namespace CipherString.Decimal

/-- The code points of the zeros; the nine code points after each are its digits one to nine. -/
def zeros : List Nat :=
  [
    0x30, 0x660, 0x6f0, 0x7c0, 0x966, 0x9e6, 0xa66, 0xae6, 0xb66, 0xbe6, 0xc66, 0xce6, 0xd66, 0xde6,
    0xe50, 0xed0, 0xf20, 0x1040, 0x1090, 0x17e0, 0x1810, 0x1946, 0x19d0, 0x1a80, 0x1a90, 0x1b50,
    0x1bb0, 0x1c40, 0x1c50, 0xa620, 0xa8d0, 0xa900, 0xa9d0, 0xa9f0, 0xaa50, 0xabf0, 0xff10, 0x104a0,
    0x10d30, 0x11066, 0x110f0, 0x11136, 0x111d0, 0x112f0, 0x11450, 0x114d0, 0x11650, 0x116c0,
    0x11730, 0x118e0, 0x11950, 0x11c50, 0x11d50, 0x11da0, 0x16a60, 0x16ac0, 0x16b50, 0x1d7ce,
    0x1d7d8, 0x1d7e2, 0x1d7ec, 0x1d7f6, 0x1e140, 0x1e2f0, 0x1e950, 0x1fbf0]

def digitValue? (c : Char) : Option Nat :=
  (zeros.find? fun start => start ≤ c.toNat && c.toNat ≤ start + 9).map (c.toNat - ·)

/-- White space around a number: as anywhere, without the four information separators. -/
def isMargin (c : Char) : Bool :=
  Text.isBlank c && !(0x1c ≤ c.toNat && c.toNat ≤ 0x1f)

/-- A digit of any script as the usual digit; other characters stand for themselves. -/
def plainDigit (c : Char) : Char :=
  match digitValue? c with
  | some value => Char.ofNat ('0'.toNat + value)
  | none => c

/-- The characters of a number, without what surrounds it and in usual digits. -/
def body (s : String) : List Char :=
  (Text.dropEndWhile isMargin (s.toList.dropWhile isMargin)).map plainDigit

/-- Removes underscores, each of which has to stand between two digits. `afterDigit` says whether a
digit comes just before. -/
def joinDigits (afterDigit : Bool) : List Char → Option (List Char)
  | [] => some []
  | '_' :: rest =>
    if afterDigit && (rest.head?.map Char.isDigit).getD false then joinDigits false rest else none
  | c :: rest => (joinDigits c.isDigit rest).map (c :: ·)

/-- A sign at the head of a text: whether it is the minus sign, and the rest. -/
def sign : List Char → Bool × List Char
  | '-' :: rest => (true, rest)
  | '+' :: rest => (false, rest)
  | rest => (false, rest)

def digitsValue (cs : List Char) : Nat :=
  cs.foldl (fun n c => 10 * n + (c.toNat - '0'.toNat)) 0

def readInt? (s : String) : Option Int := do
  let cs ← joinDigits false (body s)
  let (negative, digits) := sign cs
  if digits.isEmpty || !digits.all Char.isDigit || maxDigits < digits.length then none
  else some (if negative then -(digitsValue digits : Int) else digitsValue digits)

/-- The floating-point number nearest to `digits * 10 ^ exponent`, infinite beyond their range. The
number of digits shows what lies far beyond it or far below. -/
def nearest (digits : List Char) (exponent : Int) : Float :=
  let significant := digits.dropWhile (· == '0')
  let magnitude : Int := significant.length + exponent
  if significant.isEmpty || magnitude < -400 then 0
  else if 400 < magnitude then 1 / 0
  else Float.ofScientific (digitsValue significant) (exponent < 0) exponent.natAbs

def readExponent? : List Char → Option Int
  | [] => some 0
  | c :: rest =>
    let (negative, digits) := sign rest
    if c.toLower == 'e' && !digits.isEmpty && digits.all Char.isDigit then
      some (if negative then -(digitsValue digits : Int) else digitsValue digits)
    else none

def readMagnitude? (cs : List Char) : Option Float :=
  let word := String.ofList (cs.map Char.toLower)
  if word = "inf" ∨ word = "infinity" then some (1 / 0)
  else if word = "nan" then some (0 / 0)
  else
    let integer := cs.takeWhile Char.isDigit
    let (fraction, rest) :=
      match cs.dropWhile Char.isDigit with
      | '.' :: rest => (rest.takeWhile Char.isDigit, rest.dropWhile Char.isDigit)
      | rest => ([], rest)
    if integer.isEmpty && fraction.isEmpty then none
    else (readExponent? rest).map fun exponent =>
      nearest (integer ++ fraction) (exponent - fraction.length)

def readFloat? (s : String) : Option Float := do
  let cs ← joinDigits false (body s)
  let (negative, rest) := sign cs
  let magnitude ← readMagnitude? rest
  some (if negative then -magnitude else magnitude)

end CipherString.Decimal
