import CipherString.Datum
import CipherString.Fault
import CipherString.Text.Blank
import CipherString.Text.Upper

namespace CipherString

inductive UnknownToken where
  | strict
  | empty
  deriving DecidableEq, Repr

inductive CatalogSource where
  | builtin
  | host
  deriving DecidableEq, Repr

def UnknownToken.word : UnknownToken → String
  | .strict => "STRICT"
  | .empty => "EMPTY"

def UnknownToken.ofWord? (word : String) : Option UnknownToken :=
  if word = "STRICT" then some .strict else if word = "EMPTY" then some .empty else none

def CatalogSource.word : CatalogSource → String
  | .builtin => "BUILTIN"
  | .host => "HOST"

def CatalogSource.ofWord? (word : String) : Option CatalogSource :=
  if word = "BUILTIN" then some .builtin else if word = "HOST" then some .host else none

/-- The settings that reach the program from its surroundings, as far as they are made. -/
structure Environment where
  unknownToken : Option String := none
  catalogSource : Option String := none
  logLevel : Option String := none

structure Policy where
  unknownToken : UnknownToken := .strict
  catalogSource : CatalogSource := .builtin
  deriving DecidableEq, Repr

namespace Policy

/-- The word that a text spells: in upper case, without the white space around it. -/
def wordOf (s : String) : String :=
  Text.upper (Text.trim s)

/-- The word that the plain form of a value spells, if it has one. -/
def wordOfDatum (room : Nat) (value : Datum) : Except Fault String :=
  (value.display room).map wordOf

/-- The failure of a setting whose value is none of its choices. -/
def reject (room : Nat) (setting : Setting) (value : Datum) : Except Fault Policy := do
  let shown ← value.quoted room
  .error (.badSetting setting shown)

/-- A policy from two values of any kind. The plain forms of both are made before either is judged;
if both settings are wrong, the fault is about the first. -/
def ofSettings (room : Nat) (unknownToken catalogSource : Datum) : Except Fault Policy := do
  let unknownWord ← wordOfDatum room unknownToken
  let sourceWord ← wordOfDatum room catalogSource
  match UnknownToken.ofWord? unknownWord with
  | none => reject room .unknownToken unknownToken
  | some choice =>
    match CatalogSource.ofWord? sourceWord with
    | none => reject room .catalogSource catalogSource
    | some source => pure ⟨choice, source⟩

/-- The policy that the surroundings set; what they do not set has its default. Their values are
texts, which need no room. -/
def ofEnvironment (environment : Environment) : Except Fault Policy :=
  ofSettings 0 (.text (environment.unknownToken.getD UnknownToken.strict.word))
    (.text (environment.catalogSource.getD CatalogSource.builtin.word))

def isStrict (policy : Policy) : Bool :=
  policy.unknownToken == .strict

end Policy

end CipherString
