import CipherString.Catalog.Builtin
import CipherString.Logged

namespace CipherString

structure HostEntry where
  name? : Option Datum
  deriving Inhabited

/-- The plain form of the name of an entry, empty if there is no name. -/
def HostEntry.name (room : Nat) (entry : HostEntry) : Except Fault String :=
  (entry.name?.map (Datum.display room)).getD (.ok "")

/-- A host: the reason for which it rejects a cipher string, if it does; the entries it gives for
one it accepts; the entries of its defaults; its version; and the room there is for showing the
names of entries. -/
structure Host where
  rejection : String → Option String := fun _ => none
  entries : String → List HostEntry := fun _ => []
  defaults : List HostEntry := []
  version : String := ""
  room : Nat := 0

namespace Host

def everything : String := "ALL:COMPLEMENTOFALL"

/-- The suites of entries after those in `seen`, each where it first appears. A name that cannot be
shown is a fault. -/
def suitesAfter (room : Nat) (source : String) (seen : List Suite) :
    List HostEntry → Logged (List Suite)
  | [] => pure []
  | entry :: entries => do
    let name ← Logged.ofExcept (entry.name room)
    match Catalog.builtinNames.suiteNamed name with
    | none =>
      Logged.report (.hostEntrySkipped name source)
      suitesAfter room source seen entries
    | some suite =>
      if suite ∈ seen then suitesAfter room source seen entries
      else
        let suites ← suitesAfter room source (suite :: seen) entries
        pure (suite :: suites)

/-- The suites of entries, each where it first appears; `source` is what the entries are called in
notices. -/
def suitesOf (room : Nat) (source : String) (entries : List HostEntry) : Logged (List Suite) :=
  suitesAfter room source [] entries

/-- The catalog of what the host offers for a cipher string. Its defaults are those of the host that
are among its suites, and its names are the built-in ones. -/
def catalog (host : Host) (cipherString : String) : Logged Catalog := do
  match host.rejection cipherString with
  | some reason => Logged.fail (.hostRejected cipherString reason)
  | none =>
    let suites ← suitesOf host.room "all" (host.entries cipherString)
    let offered ← suitesOf host.room "default" host.defaults
    let defaults := offered.filter (· ∈ suites)
    Logged.report (.hostLoaded host.version suites.length defaults.length)
    pure (Catalog.ofLists suites defaults Catalog.builtinNames)

end Host

/-- The arguments of a request for a host catalog: a cipher string, or none for everything. -/
abbrev HostRequest := Option String

def HostRequest.cipherString (request : HostRequest) : String :=
  request.getD Host.everything

/-- The catalogs that have been made, in the order of their making, each under the request as it was
written; and how many times one was to be made. -/
structure HostCache where
  kept : List (HostRequest × Catalog) := []
  made : Nat := 0

namespace HostCache

def find? (cache : HostCache) (request : HostRequest) : Option (Nat × Catalog) :=
  (cache.kept.zipIdx.find? fun entry => entry.1.1 = request).map fun entry =>
    (entry.2, entry.1.2)

/-- Answers a request, from what is kept or by asking the host. Gives the catalog with its place
among those kept, which tells it from all others, and the cache after the request. A failure is not
kept. -/
def request (host : Host) (cache : HostCache) (request : HostRequest) :
    Logged (Nat × Catalog) × HostCache :=
  match cache.find? request with
  | some found => (pure found, cache)
  | none =>
    let answer := host.catalog request.cipherString
    match answer.outcome with
    | .ok catalog =>
      (⟨answer.notices, .ok (cache.kept.length, catalog)⟩,
        ⟨cache.kept ++ [(request, catalog)], cache.made + 1⟩)
    | .error fault => (⟨answer.notices, .error fault⟩, { cache with made := cache.made + 1 })

def requests (host : Host) (cache : HostCache) :
    List HostRequest → List (Logged (Nat × Catalog) × HostCache)
  | [] => []
  | request :: rest =>
    let answer := cache.request host request
    answer :: requests host answer.2 rest

end HostCache

end CipherString
