import CipherString.Interpreter

namespace CipherString

def scanDatum : Datum → Except Fault (List String)
  | .text expression => .ok (Token.scan expression)
  | other => .error (.expressionNotText other.kind)

/-- Tokens of any kind with the default token at their head spelled out. Nothing at the head of the
list is taken for its end. -/
def spellOutDefaultData : List Datum → List Datum
  | [] => []
  | .null :: _ => []
  | .text token :: tokens => (spellOutDefault [token]).map Datum.text ++ tokens
  | token :: tokens => token :: tokens

namespace Interpreter

/-- Applies a token of any kind. Only texts and lists have a beginning to look at, only a text can
be looked up, and a record would need the stretch that is looked at for a key. -/
def stepDatum (interpreter : Interpreter) (state : Selection) : Datum → Logged Selection
  | .text token => interpreter.step state token
  | .record _ => Logged.fail (.notKey "slice")
  | other =>
    Logged.fail (if other.isKey then .notSliceable other.kind else .notKey other.kind)

def runData (interpreter : Interpreter) (tokens : List Datum) : Logged Selection :=
  (spellOutDefaultData tokens).foldlM interpreter.stepDatum .empty

def evaluateDatum (interpreter : Interpreter) : Datum → Logged (List Suite)
  | .text expression => interpreter.evaluate expression
  | other => Logged.fail (.expressionNotText other.kind)

def evaluateNamesDatum (interpreter : Interpreter) : Datum → Logged (List String)
  | .text expression => interpreter.evaluateNames expression
  | other => Logged.fail (.expressionNotText other.kind)

end Interpreter

end CipherString
