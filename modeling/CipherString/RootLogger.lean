import CipherString.Datum
import CipherString.Fault
import CipherString.Policy

namespace CipherString

structure LogHandler where
  format : String
  toStandardOutput : Bool
  deriving DecidableEq, Repr

structure RootLogger where
  level : Nat := 30
  handlers : List LogHandler := []
  deriving DecidableEq, Repr

namespace RootLogger

def levels : List (String × Nat) :=
  [("CRITICAL", 50), ("FATAL", 50), ("ERROR", 40), ("WARN", 30), ("WARNING", 30), ("INFO", 20),
    ("DEBUG", 10), ("NOTSET", 0)]

def standardHandler : LogHandler :=
  ⟨"%(asctime)s %(levelname)s %(name)s: %(message)s", true⟩

/-- The value that names the level: the argument, unless it counts as false; else the setting of
the environment; else `INFO`. -/
def chosen (setting : Option String) (argument : Datum) : Datum :=
  if argument.isTrue then argument else .text (setting.getD "INFO")

/-- The level that a value names, without regard to case and to white space around it. -/
def levelOf : Datum → Except Fault Nat
  | .text s =>
    match levels.lookup (Policy.wordOf s) with
    | some level => .ok level
    | none => .error (.unknownLevel (Policy.wordOf s))
  | other => .error (.noOperation other.kind "strip")

/-- Sets a level and installs the handler, unless there is a handler already. -/
def configure (root : RootLogger) (level : Nat) : RootLogger :=
  if root.handlers.isEmpty then ⟨level, [standardHandler]⟩ else root

def call (setting : Option String) (root : RootLogger) (argument : Datum) :
    Except Fault Unit × RootLogger :=
  match levelOf (chosen setting argument) with
  | .ok level => (.ok (), root.configure level)
  | .error fault => (.error fault, root)

/-- Calls one after another: the outcome of each, and the root logger after it. -/
def calls (setting : Option String) (root : RootLogger) :
    List Datum → List (Except Fault Unit × RootLogger)
  | [] => []
  | argument :: arguments =>
    let answer := root.call setting argument
    answer :: calls setting answer.2 arguments

end RootLogger

end CipherString
