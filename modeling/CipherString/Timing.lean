import CipherString.Decimal.Binary64
import CipherString.Logged

namespace CipherString

structure Timing where
  name : String
  operations : Int
  seconds : Float

namespace Timing

/-- How often it was run in fact: a negative number counts as none. -/
def runs (timing : Timing) : Nat :=
  timing.operations.toNat

def divisor (timing : Timing) : Except Fault Float :=
  match Decimal.ofInt? timing.operations with
  | some x => .ok x
  | none => .error .integerTooLarge

def perSecond (timing : Timing) : Except Fault Float :=
  if 0 < timing.seconds then timing.divisor.map (· / timing.seconds) else .ok 0

def microseconds (timing : Timing) : Except Fault Float :=
  if 0 < timing.operations then timing.divisor.map (timing.seconds * 1e6 / ·) else .ok 0

abbrev Clocked (α : Type) := StateT (List Float) Logged α

def read : Clocked Float
  | [] => Logged.fail .clockExhausted
  | reading :: clock => pure (reading, clock)

/-- The outcome of a computation, be it a failure; after one the clock has run out. -/
def attempt {α : Type} (x : Clocked α) : Clocked (Except Fault α) := fun clock => do
  match ← (x clock).attempt with
  | .ok (a, clock) => pure (.ok a, clock)
  | .error fault => pure (.error fault, [])

def measure (name : String) (operations : Int) (x : Logged Unit) : Clocked Timing := do
  let start ← read
  liftM (Logged.times operations.toNat x)
  let stop ← read
  pure ⟨name, operations, stop - start⟩

end Timing

end CipherString
