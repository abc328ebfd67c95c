import CipherString.Catalog
import CipherString.Keyword
import CipherString.Text.Blank
import CipherString.Trial.Drawing

namespace CipherString.Trial

/-- How expressions are made: the most tokens, and the probabilities that a body is a combination,
that it is a name, and that a token is the directive that sorts. -/
structure Shape where
  tokens : Int
  combination : Rat
  name : Rat
  strength : Rat

variable {σ : Type}

/-- A random body: a name, a combination of two or three keywords, or a keyword. -/
def randomBody (source : Source σ) (catalog : Catalog) (shape : Shape) : Drawing σ String := do
  if ← source.happens shape.name then
    source.choose (Text.sorted catalog.names.names)
  else if ← source.happens shape.combination then
    let count ← source.between 2 3
    let words ← (source.choose Keyword.known).times count.toNat
    pure ("+".intercalate words)
  else
    source.choose Keyword.known

def modifiers : List String :=
  ["", "", "", "!", "-", "+"]

def randomToken (source : Source σ) (catalog : Catalog) (shape : Shape) : Drawing σ String := do
  if ← source.happens shape.strength then
    pure "@STRENGTH"
  else
    let modifier ← source.choose modifiers
    let body ← randomBody source catalog shape
    pure (modifier ++ body)

def randomTokens (source : Source σ) (catalog : Catalog) (shape : Shape) :
    Drawing σ (List String) := do
  let count ← source.between 1 shape.tokens
  (randomToken source catalog shape).times count.toNat

def separators : List String :=
  [":", ",", " ", " : "]

def joinAll (source : Source σ) : List String → Drawing σ String
  | [] => pure ""
  | token :: tokens => do
    let separator ← source.choose separators
    let rest ← joinAll source tokens
    pure (token ++ separator ++ rest)

/-- Tokens in one text with random separators between. The separators at the end are taken off. -/
def join (source : Source σ) (tokens : List String) : Drawing σ String := do
  let all ← joinAll source tokens
  pure (String.ofList (Text.dropEndWhile (fun c => c == ':' || c == ',' || c == ' ') all.toList))

end CipherString.Trial
