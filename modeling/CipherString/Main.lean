import CipherString.Timing.Report
import CipherString.Trial.CommandLine

namespace CipherString.Main

def now : IO Float := do
  let nanoseconds ← IO.monoNanosNow
  pure (nanoseconds.toFloat / 1e9)

/-- Runs `work` a number of times and gives the readings of the clock before and after. The results
are added up, so that each run has to be made. -/
def timed (runs : Nat) (work : Nat → Nat) : IO (List Float) := do
  let start ← now
  let mut total := 0
  for i in [0:runs] do
    total := total + work i
  if total = 0 then IO.print ""
  let stop ← now
  pure [start, stop]

def scans : Nat := 20000

def selections : Nat := 500

def readings : IO (List Float) := do
  let scanning ← timed scans fun i =>
    (Token.scan (if i = scans then "" else Timing.longExpression)).length
  let selecting ← Timing.expressions.mapM fun expression =>
    timed selections fun i =>
      match (Timing.interpreter.evaluate (if i = selections then "" else expression)).outcome with
      | .ok suites => suites.length
      | .error _ => 0
  pure (scanning ++ selecting.flatten)

def bench : IO UInt32 := do
  let clock ← readings
  match (Timing.report scans selections clock).outcome with
  | .ok (report, _) =>
    IO.print report
    pure 0
  | .error fault =>
    IO.eprintln fault.message
    pure 1

def fuzz (arguments : List String) : IO UInt32 := do
  match (Trial.program Trial.Mixer.source arguments 0).1.outcome with
  | .ok (.printed output) =>
    IO.print output
    pure 0
  | .ok .refused =>
    IO.eprintln ("usage: fuzz [--cases N] [--tokens N] [--seed N] " ++
      "[--combo-prob P] [--name-prob P] [--strength-prob P]")
    pure 2
  | .ok (.outOfRange message) =>
    IO.eprintln message
    pure 1
  | .error fault =>
    IO.eprintln fault.message
    pure 1

end CipherString.Main

def main : List String → IO UInt32
  | ["bench"] => CipherString.Main.bench
  | "fuzz" :: arguments => CipherString.Main.fuzz arguments
  | _ => do
    IO.eprintln "usage: bench | fuzz [options]"
    pure 2
