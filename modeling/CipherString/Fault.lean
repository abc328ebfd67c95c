import CipherString.Decimal.Writing
import CipherString.Text.Quoted

namespace CipherString

inductive Setting where
  | unknownToken
  | catalogSource
  deriving DecidableEq, Repr

def Setting.name : Setting → String
  | .unknownToken => "unknown_token"
  | .catalogSource => "catalog_source"

def Setting.choices : Setting → String
  | .unknownToken => "('STRICT', 'EMPTY')"
  | .catalogSource => "('BUILTIN', 'HOST')"

/-- A law of selection that a random trial found broken, with the texts of the trial. -/
inductive Finding where
  | repeated (expression : String)
  | reentered (expression body : String)
  | moveChanged (expression body : String)
  | sortNotIdempotent (expression : String)
  | sortNotDescending (expression : String)
  | readditionDiffers (body : String)
  | defaultDiffers (rest : String)
  deriving DecidableEq, Repr

def Finding.message : Finding → String
  | .repeated expression => "duplicates in result of " ++ Text.quoted expression
  | .reentered expression body =>
    "excluded suites re-entered: " ++ Text.quoted expression ++ " + " ++ Text.quoted body
  | .moveChanged expression body =>
    "'+" ++ body ++ "' changed membership of " ++ Text.quoted expression
  | .sortNotIdempotent expression => "@STRENGTH not idempotent for " ++ Text.quoted expression
  | .sortNotDescending expression => "@STRENGTH not descending for " ++ Text.quoted expression
  | .readditionDiffers body =>
    "'" ++ body ++ ":-" ++ body ++ ":" ++ body ++ "' differs from '" ++ body ++ "'"
  | .defaultDiffers rest => "DEFAULT rewrite mismatch for rest=" ++ Text.quoted rest

/-- The causes of failure. Where a value of the wrong kind is the cause, `kind` is the word for its
kind, and `left` and `right` are such words for two values. -/
inductive Fault where
  /-- A token that is neither a suite name nor a combination of keywords, with the first piece of it
  that is no keyword; or a directive that does not exist, which is its own piece. -/
  | unrecognized (token part : String)
  /-- A policy setting outside its choices; `shown` is the quoted form of the value. -/
  | badSetting (setting : Setting) (shown : String)
  | hostRejected (cipherString reason : String)
  /-- A suite given by a number of attributes other than three or four. -/
  | suiteArity (count : Nat)
  /-- A suite given by fields, none of which is the field of that name. -/
  | missingField (name : String)
  | noParts (kind : String)
  | notKey (kind : String)
  | noOperation (kind operation : String)
  | notSliceable (kind : String)
  | notJoinable (index : Nat) (kind : String)
  | expressionNotText (kind : String)
  | notSuite (kind : String)
  | notComparable (left right : String)
  | notShiftable (kind : String)
  | outOfRange
  | unknownLevel (name : String)
  | integerTooLarge
  | integerTooLong
  /-- A value to be shown lies in more lists and records than there is room for. -/
  | nestedTooDeep
  | clockExhausted
  | emptyChoice
  | emptyRange
  | broken (finding : Finding)
  deriving DecidableEq, Repr

/-- The wording of a fault. A piece equal to the whole token is not repeated. -/
def Fault.message : Fault → String
  | .unrecognized token part =>
    if part = token then "unrecognized cipher string: " ++ Text.quoted token
    else
      "unrecognized cipher string: " ++ Text.quoted token ++ " (unknown part " ++
        Text.quoted part ++ ")"
  | .badSetting setting shown =>
    setting.name ++ " must be one of " ++ setting.choices ++ ", got " ++ shown
  | .hostRejected cipherString reason =>
    "host TLS library rejected cipher string " ++ Text.quoted cipherString ++ ": " ++ reason
  | .suiteArity count => "cipher suite tuple must have 3 or 4 items, got " ++ toString count
  | .missingField name => name
  | .noParts kind => "object of type '" ++ kind ++ "' has no len()"
  | .notKey kind => "unhashable type: '" ++ kind ++ "'"
  | .noOperation kind operation =>
    "'" ++ kind ++ "' object has no attribute '" ++ operation ++ "'"
  | .notSliceable kind => "'" ++ kind ++ "' object is not subscriptable"
  | .notJoinable index kind =>
    "sequence item " ++ toString index ++ ": expected str instance, " ++ kind ++ " found"
  | .expressionNotText kind => "expression must be str, got " ++ kind
  | .notSuite kind => "catalog entries must be CipherSuite, got " ++ kind
  | .notComparable left right =>
    "'<=' not supported between instances of '" ++ left ++ "' and '" ++ right ++ "'"
  | .notShiftable kind => "unsupported operand type(s) for <<: '" ++ kind ++ "' and 'int'"
  | .outOfRange => "list index out of range"
  | .unknownLevel name => "unknown log level: " ++ Text.quoted name
  | .integerTooLarge => "int too large to convert to float"
  | .integerTooLong =>
    "Exceeds the limit (" ++ toString Decimal.maxDigits ++ " digits) for integer string " ++
      "conversion; use sys.set_int_max_str_digits() to increase the limit"
  | .nestedTooDeep => "maximum recursion depth exceeded while getting the repr of an object"
  | .clockExhausted => "clock exhausted"
  | .emptyChoice => "Cannot choose from an empty sequence"
  | .emptyRange => "integer modulo by zero"
  | .broken finding => finding.message

end CipherString
