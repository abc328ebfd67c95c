import CipherString.Catalog
import CipherString.Keyword
import CipherString.Logged
import CipherString.Policy
import CipherString.Token

namespace CipherString.Catalog

/-- The criteria of all pieces, or the first piece that is no keyword. -/
def criteria : List String → Except String (List Criterion)
  | [] => .ok []
  | piece :: pieces =>
    match Keyword.criterion? piece with
    | none => .error piece
    | some criterion => (criteria pieces).map (criterion :: ·)

/-- The suites that a body denotes, or its first piece that is no keyword. A name comes before a
combination of keywords, and is not bound to the suites of the catalog. -/
def meaning (c : Catalog) (body : String) : Except String (List Suite) :=
  match c.suiteNamed body with
  | some suite => .ok [suite]
  | none => (criteria (Token.pieces body)).map c.matching

/-- The suites that a body denotes. A body that is not understood is a fault under the strict policy
and is otherwise reported, and denotes none. -/
def suitesOf (c : Catalog) (unknown : UnknownToken) (body : String) : Logged (List Suite) :=
  match c.meaning body with
  | .ok suites => pure suites
  | .error part =>
    match unknown with
    | .strict => Logged.fail (.unrecognized body part)
    | .empty => do
      Logged.report (.unmatched body part)
      pure []

def suitesOfDatum (c : Catalog) (unknown : UnknownToken) : Datum → Logged (List Suite)
  | .text body => c.suitesOf unknown body
  | other =>
    Logged.fail (if other.isKey then .noOperation other.kind "split" else .notKey other.kind)

end CipherString.Catalog
