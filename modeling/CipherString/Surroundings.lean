import CipherString.Host
import CipherString.Interpreter

namespace CipherString

structure Surroundings where
  environment : Environment := {}
  host : Host := {}

namespace Surroundings

def catalogOf (around : Surroundings) (policy : Policy) : Logged Catalog :=
  match policy.catalogSource with
  | .builtin => pure Catalog.builtin
  | .host => around.host.catalog Host.everything

/-- An interpreter for a catalog and a policy that may be left open. The policy is found first. -/
def interpreter (around : Surroundings) (catalog : Option Catalog) (policy : Option Policy) :
    Logged Interpreter := do
  let policy ← Logged.ofExcept
    (match policy with
    | some policy => .ok policy
    | none => Policy.ofEnvironment around.environment)
  let catalog ←
    match catalog with
    | some catalog => pure catalog
    | none => around.catalogOf policy
  pure ⟨catalog, policy⟩

def catalog (around : Surroundings) : Option Catalog → Logged Catalog
  | some catalog => pure catalog
  | none => do
    let policy ← Logged.ofExcept (Policy.ofEnvironment around.environment)
    around.catalogOf policy

end Surroundings

end CipherString
