import CipherString.Logged
import CipherString.Trial.Source

namespace CipherString.Trial

def Drawing (σ α : Type) : Type :=
  σ → Logged α × σ

namespace Drawing

variable {σ α β : Type}

protected def pure (a : α) : Drawing σ α :=
  fun state => (pure a, state)

/-- One computation after another; the second runs only if the first succeeds. -/
protected def bind (x : Drawing σ α) (f : α → Drawing σ β) : Drawing σ β := fun state =>
  let (first, state) := x state
  match first.outcome with
  | .ok a =>
    let (second, state) := f a state
    (⟨first.notices ++ second.notices, second.outcome⟩, state)
  | .error fault => (⟨first.notices, .error fault⟩, state)

instance : Monad (Drawing σ) where
  pure := Drawing.pure
  bind := Drawing.bind

def fail (fault : Fault) : Drawing σ α :=
  fun state => (Logged.fail fault, state)

def ofLogged (x : Logged α) : Drawing σ α :=
  fun state => (x, state)

def advance (f : σ → σ) : Drawing σ Unit :=
  fun state => (pure (), f state)

def times (x : Drawing σ α) : Nat → Drawing σ (List α)
  | 0 => pure []
  | n + 1 => do
    let a ← x
    let rest ← times x n
    pure (a :: rest)

end Drawing

namespace Source

variable {σ α : Type}

def happens (source : Source σ) (probability : Rat) : Drawing σ Bool := fun state =>
  let (fraction, state) := source.fraction state
  (pure (decide (fraction < probability)), state)

/-- One of the elements of a list. Among none there is no choice, and nothing is drawn. -/
def choose (source : Source σ) (l : List α) : Drawing σ α :=
  if h : 0 < l.length then fun state =>
    let (i, state) := source.below l.length h state
    (pure l[i], state)
  else Drawing.fail .emptyChoice

def between (source : Source σ) (first last : Int) : Drawing σ Int :=
  if h : 0 < (last - first + 1).toNat then fun state =>
    let (i, state) := source.below _ h state
    (pure (first + i), state)
  else Drawing.fail .emptyRange

end Source

end CipherString.Trial
