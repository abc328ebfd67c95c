import CipherString.Suite

namespace CipherString

inductive Level where
  | debug
  | info
  | warning
  | error
  | critical
  deriving DecidableEq, Repr

def Level.rank : Level → Nat
  | .debug => 10
  | .info => 20
  | .warning => 30
  | .error => 40
  | .critical => 50

inductive Channel where
  | catalog
  | meaning
  | interpreter
  deriving DecidableEq, Repr

inductive Notice where
  /-- A token that is not understood matches nothing; `part` is its first piece that is no
  keyword. -/
  | unmatched (token part : String)
  | securityLevelIgnored (token : String)
  | directiveIgnored (token : String)
  /-- A token has been applied; the numbers are the sizes after it. -/
  | applied (token : String) (chosen banned : Nat)
  | unnamed (suite : Suite)
  | hostEntrySkipped (name source : String)
  | hostLoaded (version : String) (suites defaults : Nat)
  deriving DecidableEq, Repr

namespace Notice

def level : Notice → Level
  | unmatched .. => .warning
  | securityLevelIgnored _ => .warning
  | directiveIgnored _ => .warning
  | applied .. => .debug
  | unnamed _ => .debug
  | hostEntrySkipped .. => .debug
  | hostLoaded .. => .info

def channel : Notice → Channel
  | unmatched .. => .meaning
  | securityLevelIgnored _ => .interpreter
  | directiveIgnored _ => .interpreter
  | applied .. => .interpreter
  | unnamed _ => .interpreter
  | hostEntrySkipped .. => .catalog
  | hostLoaded .. => .catalog

def padded (width : Nat) (s : String) : String :=
  s ++ String.ofList (List.replicate (width - s.toList.length) ' ')

def message : Notice → String
  | unmatched token part =>
    "unrecognized cipher string " ++ Text.quoted token ++ " (part " ++ Text.quoted part ++
      ") matches nothing"
  | securityLevelIgnored token => token ++ " is not supported by the suite catalog; ignored"
  | directiveIgnored token => "unknown directive " ++ Text.quoted token ++ " ignored"
  | applied token chosen banned =>
    padded 28 token ++ " included=" ++ toString chosen ++ " excluded=" ++ toString banned
  | unnamed suite => "suite " ++ suite.label ++ " has no OpenSSL name; omitted"
  | hostEntrySkipped name source =>
    "host cipher " ++ Text.quoted name ++ " (" ++ source ++ ") has no attribute tuple; skipped"
  | hostLoaded version suites defaults =>
    "host catalog (" ++ version ++ "): " ++ toString suites ++ " suites, " ++ toString defaults ++
      " defaults"

def isAtLeast (lowest : Level) (notice : Notice) : Bool :=
  lowest.rank ≤ notice.level.rank

end Notice

end CipherString
