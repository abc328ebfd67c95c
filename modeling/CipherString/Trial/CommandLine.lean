import CipherString.Decimal.Binary64
import CipherString.Decimal.Reading
import CipherString.Trial.Case

/-!
The command line of the trials: options with a value each, by their full names or by any shorter
beginning that only one of them has, the value after an equals sign or as the next argument. The
plan of the trials is what the options hold, checked in a fixed order.
-/

namespace CipherString.Trial

/-- What the options set. An option that is given without a number holds none. -/
structure Settings where
  cases : Option Int := some 200
  tokens : Option Int := some 8
  seed : Option Int := some 0
  combination : Option Float := some 0.35
  name : Option Float := some 0.15
  strength : Option Float := some 0.10

inductive CaseOption where
  | cases
  | tokens
  | seed
  | combination
  | name
  | strength
  deriving DecidableEq, Repr

namespace CaseOption

def text : CaseOption → String
  | cases => "--cases"
  | tokens => "--tokens"
  | seed => "--seed"
  | combination => "--combo-prob"
  | name => "--name-prob"
  | strength => "--strength-prob"

def names : List (String × CaseOption) :=
  [cases, tokens, seed, combination, name, strength].map fun option => (option.text, option)

/-- What a value gives to an option: the number that it reads as, or no number if it is two hyphens
alone. -/
def holding? {α : Type} (read? : String → Option α) (value : String) : Option (Option α) :=
  if value = "--" then some none else (read? value).map some

/-- The settings with a value for one option, if the option admits the value. -/
def set (settings : Settings) (value : String) : CaseOption → Option Settings
  | cases =>
    (holding? Decimal.readInt? value).map fun n => { settings with cases := n }
  | tokens =>
    (holding? Decimal.readInt? value).map fun n => { settings with tokens := n }
  | seed =>
    (holding? Decimal.readInt? value).map fun n => { settings with seed := n }
  | combination =>
    (holding? Decimal.readFloat? value).map fun x => { settings with combination := x }
  | name =>
    (holding? Decimal.readFloat? value).map fun x => { settings with name := x }
  | strength =>
    (holding? Decimal.readFloat? value).map fun x => { settings with strength := x }

end CaseOption

inductive Argument where
  | plain
  | option (option : CaseOption) (value? : Option String)
  /-- Two hyphens alone, which end the options, or an option that is unknown or not the only one
  meant. -/
  | refused

namespace Argument

/-- Whether a text reads as a negative number, after which it may be a value: a minus sign and
digits, with a point before or between them at most. One line break may follow. -/
def isNegativeNumber (cs : List Char) : Bool :=
  let isDigit (c : Char) := (Decimal.digitValue? c).isSome
  let cs := if cs.getLast? = some '\n' then cs.dropLast else cs
  match cs with
  | '-' :: rest =>
    match rest.dropWhile isDigit with
    | [] => !rest.isEmpty
    | '.' :: fraction => !fraction.isEmpty && fraction.all isDigit
    | _ => false
  | _ => false

/-- The part of an argument before its first equals sign, and the part after it if there is one. -/
def splitAtEquals (cs : List Char) : List Char × Option String :=
  match cs.dropWhile (· != '=') with
  | '=' :: value => (cs.takeWhile (· != '='), some (String.ofList value))
  | _ => (cs, none)

/-- What an argument is. A full name comes before the beginnings; a text with a space in it, or one
that reads as a negative number, is no option. -/
def ofText (s : String) : Argument :=
  let cs := s.toList
  match cs with
  | ['-', '-'] => refused
  | '-' :: _ :: _ =>
    let (name, value?) := splitAtEquals cs
    match CaseOption.names.lookup (String.ofList name) with
    | some found => option found value?
    | none =>
      let meant :=
        if ['-', '-'].isPrefixOf cs then
          CaseOption.names.filter fun entry => name.isPrefixOf entry.1.toList
        else []
      match meant with
      | [(_, found)] => option found value?
      | _ :: _ :: _ => refused
      | [] => if isNegativeNumber cs || cs.contains ' ' then plain else refused
  | _ => plain

end Argument

def readArguments (settings : Settings) : List String → Option Settings
  | [] => some settings
  | argument :: rest =>
    match Argument.ofText argument with
    | .option found (some value) => do
      let settings ← found.set settings value
      readArguments settings rest
    | .option found none =>
      match rest with
      | [] => none
      | value :: rest =>
        match Argument.ofText value with
        | .plain => do
          let settings ← found.set settings value
          readArguments settings rest
        | _ => none
    | _ => none

def probability? (x : Float) : Option Rat :=
  if 0 ≤ x && x ≤ 1 then (Decimal.Binary64.ofFloat x).value? else none

inductive Objection where
  | outOfRange (message : String)
  | fault (fault : Fault)
  deriving DecidableEq, Repr

namespace CaseOption

def positive (option : CaseOption) : Option Int → Except Objection Int
  | none => .error (.fault (.notComparable "list" "int"))
  | some n => if n ≤ 0 then .error (.outOfRange (option.text ++ " must be > 0")) else .ok n

def probability (option : CaseOption) : Option Float → Except Objection Rat
  | none => .error (.fault (.notComparable "float" "list"))
  | some x =>
    match probability? x with
    | none => .error (.outOfRange (option.text ++ " must be in [0,1]"))
    | some p => .ok p

end CaseOption

/-- The trials that are asked for. The seed is not looked at before the first of them. -/
structure Plan where
  cases : Int
  shape : Shape
  seed? : Option Int

def Settings.plan (settings : Settings) : Except Objection Plan := do
  let cases ← CaseOption.cases.positive settings.cases
  let tokens ← CaseOption.tokens.positive settings.tokens
  let combination ← CaseOption.combination.probability settings.combination
  let name ← CaseOption.name.probability settings.name
  let strength ← CaseOption.strength.probability settings.strength
  pure ⟨cases, ⟨tokens, combination, name, strength⟩, settings.seed⟩

inductive Ending where
  | printed (output : String)
  | refused
  | outOfRange (message : String)

def Plan.summary (plan : Plan) (seed : Int) : String :=
  "=== fuzz_selection OK ===\ncases      : " ++ toString plan.cases ++
    "\ntokens/case: <= " ++ toString plan.shape.tokens ++
    "\nseed       : " ++ toString seed ++ "\n"

/-- The trials of a plan, and what is printed after them. The first one fails if there is no number
to make its seed from. -/
def Plan.run {σ : Type} (source : Source σ) (plan : Plan) : Drawing σ Ending :=
  match plan.seed? with
  | none => Drawing.fail (.notShiftable "list")
  | some seed => do
    trials source plan.shape seed 0 plan.cases.toNat
    pure (.printed (plan.summary seed))

def program {σ : Type} (source : Source σ) (arguments : List String) : Drawing σ Ending :=
  match readArguments {} arguments with
  | none => pure .refused
  | some settings =>
    match settings.plan with
    | .ok plan => plan.run source
    | .error (.outOfRange message) => pure (.outOfRange message)
    | .error (.fault fault) => Drawing.fail fault

end CipherString.Trial
