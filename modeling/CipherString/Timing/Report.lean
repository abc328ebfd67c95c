import CipherString.Catalog.Builtin
import CipherString.Decimal.Fixed
import CipherString.Interpreter
import CipherString.Timing

namespace CipherString.Timing

def expressions : List String :=
  ["DEFAULT", "ALL:COMPLEMENTOFALL", "aRSA+kEECDH+AES256:!SHA", "!MEDIUM:!LOW:kRSA+SHA",
    "aRSA+kEECDH+SHA256:aRSA+kEDH+SHA256:+AES128",
    "DES:3DES:AES128:AES256:CHACHA20:@STRENGTH",
    "HIGH:!aNULL:!eNULL:!PSK:!SRP:-SSLv3:+AES128:@STRENGTH"]

def longExpression : String :=
  ":".intercalate expressions ++ " , " ++ " ".intercalate expressions

def scanning (operations : Int) : Clocked Timing :=
  measure "tokenize(long)" operations (pure ())

/-- The interpreter of the timings: the built-in catalog under the default policy. -/
def interpreter : Interpreter :=
  ⟨Catalog.builtin, {}⟩

def selecting (operations : Int) : Clocked (List Timing) :=
  expressions.mapM fun expression =>
    measure ("select(" ++ expression ++ ")") operations (discard (interpreter.evaluate expression))

def secondsStyle : Decimal.FixedStyle := ⟨4, false⟩

def rateStyle : Decimal.FixedStyle := ⟨0, true⟩

def singleStyle : Decimal.FixedStyle := ⟨1, true⟩

def lineHead (timing : Timing) : String :=
  "  " ++ timing.name ++ ": ops=" ++ toString timing.operations ++ " time=" ++
    secondsStyle.write timing.seconds ++ "s "

def scanningLine (timing : Timing) : Except Fault String :=
  timing.perSecond.map fun rate => lineHead timing ++ "ops/s=" ++ rateStyle.write rate ++ "\n"

def selectingLine (timing : Timing) : Except Fault String :=
  timing.microseconds.map fun time => lineHead timing ++ "us/op=" ++ singleStyle.write time ++ "\n"

def failureLine (heading : String) (fault : Fault) : String :=
  let kind := match fault with
    | .integerTooLarge => "OverflowError"
    | _ => "RuntimeError"
  heading ++ " bench failed: " ++ kind ++ "(" ++ Text.quoted fault.message ++ ")\n"

/-- Lines up to the first that fails, in whose place the failure is reported. -/
def lines (heading : String) : List (Except Fault String) → String
  | [] => ""
  | .ok line :: rest => line ++ lines heading rest
  | .error fault :: _ => failureLine heading fault

/-- The whole report, with so many runs of the scanner and so many of each selection. -/
def report (scans selections : Int) : Clocked String := do
  let scanned ← attempt (scanning scans)
  let selected ← attempt (selecting selections)
  let scanPart := match scanned with
    | .ok timing => "[TOKENIZE]\n" ++ lines "[TOKENIZE]" [scanningLine timing]
    | .error fault => failureLine "[TOKENIZE]" fault
  let selectPart := match selected with
    | .ok timings => lines "[SELECT]" (timings.map selectingLine)
    | .error fault => failureLine "[SELECT]" fault
  pure ("=== cipher selection bench ===\n\n" ++ scanPart ++ "\n[SELECT] catalog=" ++
    toString Catalog.builtin.suites.size ++ " suites\n" ++ selectPart ++ "\n=== DONE ===\n")

end CipherString.Timing
