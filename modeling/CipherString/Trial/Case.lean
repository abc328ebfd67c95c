import CipherString.Catalog.Builtin
import CipherString.Interpreter
import CipherString.Trial.Expression

namespace CipherString.Trial

variable {σ : Type}

/-- The bits of two integers that differ, read as two's complement. -/
def differing : Int → Int → Int
  | .ofNat m, .ofNat n => .ofNat (m ^^^ n)
  | .ofNat m, .negSucc n => .negSucc (m ^^^ n)
  | .negSucc m, .ofNat n => .negSucc (m ^^^ n)
  | .negSucc m, .negSucc n => .ofNat (m ^^^ n)

/-- The seed of a case: the common seed above the lowest 32 bits, and the number of the case. -/
def caseSeed (seed number : Int) : Int :=
  differing (seed * 0x100000000) number

def require (holds : Bool) (finding : Finding) : Drawing σ Unit :=
  if holds then pure () else Drawing.fail (.broken finding)

def selected (interpreter : Interpreter) (expression : String) : Drawing σ (List Suite) :=
  Drawing.ofLogged (interpreter.evaluate expression)

def bannedBody? (token : String) : Option String :=
  match token.toList with
  | '!' :: body => some (String.ofList body)
  | _ => none

/-- A ban is for good: what a token bans does not come back when its body is added. -/
def checkBans (interpreter : Interpreter) (expression : String) :
    List String → Drawing σ Unit
  | [] => pure ()
  | token :: tokens => do
    match bannedBody? token with
    | none => checkBans interpreter expression tokens
    | some body =>
      let banned ← Drawing.ofLogged (interpreter.catalog.suitesOf .strict body)
      let again ← selected interpreter (expression ++ ":" ++ body)
      require (!again.any fun s => s ∈ banned) (.reentered expression body)
      checkBans interpreter expression tokens

def sameMembers (l m : List Suite) : Bool :=
  l.all (· ∈ m) && m.all (· ∈ l)

def checkMoves (interpreter : Interpreter) (expression body : String) (result : List Suite) :
    Drawing σ Unit := do
  let moved ← selected interpreter (expression ++ ":+" ++ body)
  require (sameMembers moved result) (.moveChanged expression body)

def isDescending (suites : List Suite) : Bool :=
  let strengths := suites.map Suite.strength
  strengths = strengths.mergeSort fun m n => decide (n ≤ m)

def checkSorting (interpreter : Interpreter) (expression : String) : Drawing σ Unit := do
  let once ← selected interpreter (expression ++ ":@STRENGTH")
  let twice ← selected interpreter (expression ++ ":@STRENGTH:@STRENGTH")
  require (once = twice) (.sortNotIdempotent expression)
  require (isDescending once) (.sortNotDescending expression)

def checkDeletion (interpreter : Interpreter) (body : String) : Drawing σ Unit := do
  let readded ← selected interpreter (body ++ ":-" ++ body ++ ":" ++ body)
  let plain ← selected interpreter body
  require (readded = plain) (.readditionDiffers body)

def checkDefault (interpreter : Interpreter) (rest : String) : Drawing σ Unit := do
  let short ← selected interpreter ("DEFAULT:" ++ rest)
  let long ← selected interpreter ("ALL:!COMPLEMENTOFDEFAULT:!eNULL:" ++ rest)
  require (short = long) (.defaultDiffers rest)

def trial (source : Source σ) (catalog : Catalog) (shape : Shape) (seed number : Int) :
    Drawing σ Unit := do
  Drawing.advance (source.start (caseSeed seed number))
  let interpreter : Interpreter := ⟨catalog, {}⟩
  let tokens ← randomTokens source catalog shape
  let expression ← join source tokens
  let result ← selected interpreter expression
  require (decide result.Nodup) (.repeated expression)
  checkBans interpreter expression tokens
  let movedBody ← randomBody source catalog shape
  checkMoves interpreter expression movedBody result
  checkSorting interpreter expression
  let deletedBody ← randomBody source catalog shape
  checkDeletion interpreter deletedBody
  checkDefault interpreter (":".intercalate tokens)

def trials (source : Source σ) (shape : Shape) (seed first : Int) : Nat → Drawing σ Unit
  | 0 => pure ()
  | count + 1 => do
    trial source Catalog.builtin shape seed first
    trials source shape seed (first + 1) count

end CipherString.Trial
