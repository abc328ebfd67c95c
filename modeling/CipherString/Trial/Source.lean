namespace CipherString.Trial

/-- A source of random choices with states of type `σ`. Whatever it does, a number below `n` is one
of `0`, ..., `n - 1`. -/
structure Source (σ : Type) where
  start : Int → σ → σ
  fraction : σ → Rat × σ
  below : (n : Nat) → 0 < n → σ → Fin n × σ

structure Played where
  drawn : Nat := 0
  seeds : List Int := []
  deriving DecidableEq, Repr

namespace Script

/-- The number at a place of a script that is repeated without end; an empty one gives zeros. -/
def numberAt (script : List Int) (place : Nat) : Int :=
  (script[place % script.length]?).getD 0

def next (script : List Int) (played : Played) : Int × Played :=
  (numberAt script played.drawn, { played with drawn := played.drawn + 1 })

/-- The source that plays back a script. It takes one number for each choice, by its remainder, and
goes on from where it is when it is to begin anew. -/
def source (script : List Int) : Source Played where
  start seed played := { played with seeds := played.seeds ++ [seed] }
  fraction played :=
    let (n, played) := next script played
    (mkRat (n % 1024) 1024, played)
  below count positive played :=
    let (n, played) := next script played
    (⟨(n % count).toNat, by
      have := Int.emod_lt_of_pos n (b := count) (by omega)
      have := Int.emod_nonneg n (b := count) (by omega)
      omega⟩, played)

end Script

namespace Mixer

def step (state : UInt64) : UInt64 :=
  state + 0x9e3779b97f4a7c15

def mix (state : UInt64) : UInt64 :=
  let z := (state ^^^ (state >>> 30)) * 0xbf58476d1ce4e5b9
  let z := (z ^^^ (z >>> 27)) * 0x94d049bb133111eb
  z ^^^ (z >>> 31)

def source : Source UInt64 where
  start seed _ := UInt64.ofInt seed
  fraction state :=
    let state := step state
    (mkRat (mix state >>> 11).toNat (1 <<< 53), state)
  below count positive state :=
    let state := step state
    (⟨(mix state).toNat % count, Nat.mod_lt _ positive⟩, state)

end Mixer

end CipherString.Trial
