import CipherString.Proofs.Absorption
import CipherString.Proofs.Hoisting
import Mathlib.Data.List.Destutter

namespace CipherString

namespace Selection

variable (state : Selection) (suites : List Suite)

theorem append_append : (state.append suites).append suites = state.append suites := by
  apply append_of_forall_mem
  intro s hs
  rw [mem_chosen_append, banned_append]
  by_cases hbanned : s ∈ state.banned
  · exact Or.inr hbanned
  · exact Or.inl (Or.inr ⟨hs, hbanned⟩)

theorem ban_ban : (state.ban suites).ban suites = state.ban suites := by
  apply ban_of_forall_mem
  · intro s hs
    exact mem_banned_ban.mpr (Or.inr hs)
  · intro s hs
    exact not_mem_banned_ban hs

theorem delete_delete : (state.delete suites).delete suites = state.delete suites :=
  delete_of_forall_not_mem fun _ hs => (mem_chosen_delete.mp hs).2

theorem moveToEnd_moveToEnd :
    (state.moveToEnd suites).moveToEnd suites = state.moveToEnd suites := by
  apply moveToEnd_of_eq_append rfl
  · intro s hs
    simpa using (List.mem_filter.mp hs).2
  · intro s hs
    simpa using (List.mem_filter.mp hs).2

theorem modify_modify (modifier : Modifier) :
    (state.modify modifier suites).modify modifier suites = state.modify modifier suites := by
  cases modifier with
  | append => exact state.append_append suites
  | ban => exact state.ban_ban suites
  | delete => exact state.delete_delete suites
  | moveToEnd => exact state.moveToEnd_moveToEnd suites

theorem act_act (effect : Effect) : (state.act effect).act effect = state.act effect := by
  cases effect with
  | sort => exact state.sortByStrength_sortByStrength
  | idle => rfl
  | modify modifier suites => exact state.modify_modify suites modifier

/-- One suite is in twice and is shut out as well, which no tokens make of the empty selection. -/
def strained : Selection where
  chosen := [⟨"rsa", "null", "sha", "default_prf"⟩, ⟨"rsa", "aes_128_cbc", "sha", "default_prf"⟩,
    ⟨"rsa", "null", "sha", "default_prf"⟩]
  banned := .ofList [⟨"rsa", "null", "sha", "default_prf"⟩]

end Selection

namespace Interpreter

variable (interpreter : Interpreter)

theorem outcome_step_step {state final : Selection} {token : String}
    (h : (interpreter.step state token).outcome = .ok final) :
    (interpreter.step final token).outcome = .ok final := by
  rw [outcome_step] at h ⊢
  cases hread : (interpreter.read token).outcome with
  | error fault =>
      rw [hread] at h
      exact absurd h nofun
  | ok effect =>
      rw [hread] at h
      obtain rfl : state.act effect = final := Except.ok.inj h
      exact congrArg Except.ok (state.act_act effect)

theorem outcome_steps_cons_cons (state : Selection) (token : String) (tokens : List String) :
    (interpreter.steps state (token :: token :: tokens)).outcome =
      (interpreter.steps state (token :: tokens)).outcome := by
  rw [outcome_steps_cons, outcome_steps_cons]
  rcases hread : (interpreter.read token).outcome with fault | effect
  · rfl
  · show (interpreter.steps (state.act effect) (token :: tokens)).outcome =
      (interpreter.steps (state.act effect) tokens).outcome
    rw [outcome_steps_cons, hread]
    show (interpreter.steps ((state.act effect).act effect) tokens).outcome = _
    rw [state.act_act]

theorem outcome_steps_destutter' (state : Selection) (token : String) (tokens : List String) :
    (interpreter.steps state (tokens.destutter' (· ≠ ·) token)).outcome =
      (interpreter.steps state (token :: tokens)).outcome := by
  induction tokens generalizing state token with
  | nil => rfl
  | cons next tokens ih =>
      by_cases hnext : token = next
      · subst hnext
        rw [List.destutter'_cons_neg _ (not_not.mpr rfl), ih, outcome_steps_cons_cons]
      · rw [List.destutter'_cons_pos _ hnext, outcome_steps_cons, outcome_steps_cons]
        simp only [ih]

/-- A token that can be applied does nothing when it is applied once more, to whatever selection, be
it one that holds suites twice or suites that are shut out. So any run gives what it gives without
the tokens that follow themselves, its fault included. -/
theorem token_idempotent (interpreter : Interpreter) :
    (∀ state token final, (interpreter.step state token).outcome = .ok final →
      (interpreter.step final token).outcome = .ok final) ∧
    ∀ state tokens, (interpreter.steps state (tokens.destutter (· ≠ ·))).outcome =
      (interpreter.steps state tokens).outcome := by
  constructor
  · intro state token final h
    exact interpreter.outcome_step_step h
  · intro state tokens
    rcases tokens with _ | ⟨token, tokens⟩
    · rfl
    · exact interpreter.outcome_steps_destutter' state token tokens

theorem token_idempotent_of_strained :
    ∃ final, (sample.step .strained "+eNULL").outcome = .ok final ∧
      final.chosen = [⟨"rsa", "aes_128_cbc", "sha", "default_prf"⟩,
        ⟨"rsa", "null", "sha", "default_prf"⟩, ⟨"rsa", "null", "sha", "default_prf"⟩] ∧
      (sample.step final "+eNULL").outcome = .ok final := by
  have hstep : (sample.step .strained "+eNULL").outcome =
      .ok (Selection.strained.moveToEnd [⟨"rsa", "null", "sha", "default_prf"⟩]) := rfl
  exact ⟨_, hstep, by decide, (token_idempotent sample).1 _ _ _ hstep⟩

end Interpreter

end CipherString
