import CipherString.Criterion
import CipherString.Distinct
import CipherString.NameTable

/-!
Catalogs: the suites there are, in the order that breaks all ties; the default suites; and a table
of names. The names are independent of the suites: a name may denote a suite outside them.
-/

namespace CipherString

structure Catalog where
  suites : Distinct Suite
  defaults : Distinct Suite
  names : NameTable

namespace Catalog

@[ext] theorem ext {c d : Catalog} (hs : c.suites = d.suites) (hd : c.defaults = d.defaults)
    (hn : c.names = d.names) : c = d := by
  cases c; cases d; cases hs; cases hd; cases hn; rfl

/-- A catalog of lists that may hold repetitions; each suite stays where it first appears. -/
def ofLists (suites defaults : List Suite) (names : NameTable) : Catalog :=
  ⟨Distinct.ofList suites, Distinct.ofList defaults, names⟩

def ofData (room : Nat) (suites defaults : List Datum) (names : NameTable) :
    Except Fault Catalog := do
  let suites ← suites.mapM (Suite.ofDatum room)
  let defaults ← defaults.mapM (Suite.ofDatum room)
  pure (ofLists suites defaults names)

def suiteNamed (c : Catalog) (name : String) : Option Suite :=
  c.names.suiteNamed name

/-- The suite of a key of any kind: only a text can be a name, and a value that is no key cannot be
looked up. -/
def suiteNamedDatum (c : Catalog) : Datum → Except Fault (Option Suite)
  | .text name => .ok (c.suiteNamed name)
  | other => if other.isKey then .ok none else .error (.notKey other.kind)

def nameOf (c : Catalog) (suite : Suite) : Option String :=
  c.names.nameOf suite

def matching (c : Catalog) (criteria : List Criterion) : List Suite :=
  c.suites.toList.filter fun s => criteria.all (·.holds c.defaults.toList s)

/-- The place from the front that a position denotes, if it lies inside a list of that length.
Positions are counted from 0 at the front, or from -1 at the end. -/
def place? (length : Nat) (position : Int) : Option Nat :=
  let front := if position < 0 then position + length else position
  if 0 ≤ front ∧ front < length then some front.toNat else none

def suiteAt (c : Catalog) (position : Int) : Except Fault Suite :=
  match (place? c.suites.size position).bind (c.suites.toList[·]?) with
  | some suite => .ok suite
  | none => .error .outOfRange

def sortedDefaults (c : Catalog) : List Suite :=
  c.defaults.toList.mergeSort Suite.precedes

inductive Entry where
  | suite (suite : Suite)
  | other (value : Datum)

def Entry.other? (p : Datum → Bool) : Entry → Option Datum
  | suite _ => none
  | other value => if p value then some value else none

def Entry.suite? : Entry → Option Suite
  | suite s => some s
  | other _ => none

/-- A catalog of entries. Repetitions are removed first, which needs keys; then the first entry that
is no suite is a fault. -/
def ofEntries (suites defaults : List Entry) (names : NameTable) : Except Fault Catalog :=
  let all := suites ++ defaults
  match all.findSome? (Entry.other? fun value => !value.isKey) with
  | some value => .error (.notKey value.kind)
  | none =>
    match all.findSome? (Entry.other? fun _ => true) with
    | some value => .error (.notSuite value.kind)
    | none => .ok (ofLists (suites.filterMap Entry.suite?) (defaults.filterMap Entry.suite?) names)

end Catalog

end CipherString
