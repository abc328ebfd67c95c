import CipherString.Meaning
import CipherString.Instruction
import CipherString.Selection

/-!
Evaluation of cipher strings: the tokens of an expression act on a selection one after another, from
the first to the last or to the first that is not understood, and what is in at the end is the
result. There are no partial results.
-/

namespace CipherString

structure Interpreter where
  catalog : Catalog
  policy : Policy := {}

/-- The token that means the default suites when it is the first. -/
def defaultToken : String := "DEFAULT"

def defaultExpansion : List String :=
  ["ALL", "!COMPLEMENTOFDEFAULT", "!eNULL"]

def spellOutDefault : List String → List String
  | [] => []
  | token :: tokens =>
    if token = defaultToken then defaultExpansion ++ tokens else token :: tokens

def Selection.modify (state : Selection) : Modifier → List Suite → Selection
  | .append => state.append
  | .ban => state.ban
  | .delete => state.delete
  | .moveToEnd => state.moveToEnd

namespace Interpreter

def perform (interpreter : Interpreter) (state : Selection) (token : String) :
    Instruction → Logged Selection
  | .sortByStrength => pure state.sortByStrength
  | .securityLevel => do
    Logged.report (.securityLevelIgnored token)
    pure state
  | .unknownDirective =>
    match interpreter.policy.unknownToken with
    | .strict => Logged.fail (.unrecognized token token)
    | .empty => do
      Logged.report (.directiveIgnored token)
      pure state
  | .modify modifier body => do
    let suites ← interpreter.catalog.suitesOf interpreter.policy.unknownToken body
    pure (state.modify modifier suites)

def step (interpreter : Interpreter) (state : Selection) (token : String) : Logged Selection := do
  let next ← interpreter.perform state token (Instruction.ofToken token)
  Logged.report (.applied token next.chosen.length next.banned.size)
  pure next

def steps (interpreter : Interpreter) (state : Selection) (tokens : List String) :
    Logged Selection :=
  tokens.foldlM interpreter.step state

/-- Applies tokens to an empty selection, the default token at their head spelled out. -/
def run (interpreter : Interpreter) (tokens : List String) : Logged Selection :=
  interpreter.steps .empty (spellOutDefault tokens)

/-- The suites that an expression selects, in order of preference. -/
def evaluate (interpreter : Interpreter) (expression : String) : Logged (List Suite) := do
  let state ← interpreter.run (Token.scan expression)
  pure state.suites

def namesOf (interpreter : Interpreter) : List Suite → Logged (List String)
  | [] => pure []
  | suite :: suites =>
    match interpreter.catalog.nameOf suite with
    | some name => do
      let names ← namesOf interpreter suites
      pure (name :: names)
    | none => do
      Logged.report (.unnamed suite)
      namesOf interpreter suites

def evaluateNames (interpreter : Interpreter) (expression : String) : Logged (List String) := do
  let suites ← interpreter.evaluate expression
  interpreter.namesOf suites

end Interpreter

end CipherString
