import CipherString.Distinct
import CipherString.Suite

/-!
The state of a selection: the suites that are in, in order of preference, and those that are shut
out for good. Five operations change it. The suites that are in may be taken from anywhere, so they
can hold repetitions at the start.
-/

namespace CipherString

structure Selection where
  chosen : List Suite := []
  banned : Distinct Suite := ∅
  deriving DecidableEq, Inhabited

namespace Selection

def empty : Selection := {}

@[simp] theorem chosen_empty : empty.chosen = [] := rfl

@[simp] theorem banned_empty : empty.banned = ∅ := rfl

/-- Adds at the end those suites that are neither in nor shut out. -/
def append (state : Selection) (suites : List Suite) : Selection :=
  { state with
    chosen := state.chosen ++
      Distinct.firsts (suites.filter fun s => s ∉ state.chosen ∧ s ∉ state.banned) }

def ban (state : Selection) (suites : List Suite) : Selection :=
  let banned := state.banned.addAll suites
  ⟨state.chosen.filter (· ∉ banned), banned⟩

def delete (state : Selection) (suites : List Suite) : Selection :=
  { state with chosen := state.chosen.filter (· ∉ suites) }

/-- Moves the given suites that are in to the end, both parts keeping their order. -/
def moveToEnd (state : Selection) (suites : List Suite) : Selection :=
  { state with
    chosen := state.chosen.filter (· ∉ suites) ++ state.chosen.filter (· ∈ suites) }

/-- Sorts the suites that are in, the strongest first; suites of equal strength keep their order. -/
def sortByStrength (state : Selection) : Selection :=
  { state with chosen := state.chosen.mergeSort fun s t => decide (t.strength ≤ s.strength) }

def suites (state : Selection) : List Suite :=
  state.chosen.filter (· ∉ state.banned)

theorem mem_chosen_append {state : Selection} {suites : List Suite} {s : Suite} :
    s ∈ (state.append suites).chosen ↔ s ∈ state.chosen ∨ s ∈ suites ∧ s ∉ state.banned := by
  by_cases h : s ∈ state.chosen <;> simp [append, h]

@[simp] theorem banned_append (state : Selection) (suites : List Suite) :
    (state.append suites).banned = state.banned := rfl

theorem mem_chosen_ban {state : Selection} {suites : List Suite} {s : Suite} :
    s ∈ (state.ban suites).chosen ↔ s ∈ state.chosen ∧ s ∉ state.banned ∧ s ∉ suites := by
  simp [ban]

theorem mem_banned_ban {state : Selection} {suites : List Suite} {s : Suite} :
    s ∈ (state.ban suites).banned ↔ s ∈ state.banned ∨ s ∈ suites := by
  simp [ban]

/-- A ban puts out whatever is shut out after it, be it shut out by this ban or before. -/
theorem not_mem_banned_ban {state : Selection} {suites : List Suite} {s : Suite}
    (h : s ∈ (state.ban suites).chosen) : s ∉ (state.ban suites).banned := by
  rw [mem_banned_ban, not_or]
  exact (mem_chosen_ban.mp h).2

theorem mem_chosen_delete {state : Selection} {suites : List Suite} {s : Suite} :
    s ∈ (state.delete suites).chosen ↔ s ∈ state.chosen ∧ s ∉ suites := by
  simp [delete]

@[simp] theorem banned_delete (state : Selection) (suites : List Suite) :
    (state.delete suites).banned = state.banned := rfl

theorem mem_chosen_moveToEnd {state : Selection} {suites : List Suite} {s : Suite} :
    s ∈ (state.moveToEnd suites).chosen ↔ s ∈ state.chosen := by
  by_cases h : s ∈ suites <;> simp [moveToEnd, h]

@[simp] theorem banned_moveToEnd (state : Selection) (suites : List Suite) :
    (state.moveToEnd suites).banned = state.banned := rfl

theorem mem_chosen_sortByStrength {state : Selection} {s : Suite} :
    s ∈ state.sortByStrength.chosen ↔ s ∈ state.chosen :=
  List.mem_mergeSort

@[simp] theorem banned_sortByStrength (state : Selection) :
    state.sortByStrength.banned = state.banned := rfl

theorem mem_suites {state : Selection} {s : Suite} :
    s ∈ state.suites ↔ s ∈ state.chosen ∧ s ∉ state.banned := by
  simp [suites]

def sortedBanned (state : Selection) : List Suite :=
  state.banned.toList.mergeSort Suite.precedes

end Selection

end CipherString
