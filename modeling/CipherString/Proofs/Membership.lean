import CipherString.Proofs.Invariant
import Mathlib.Data.List.Induction

/-!
Which suites a run selects. The tokens need not be replayed for it: a suite is selected exactly when
no token bans it and some token appends it after which none deletes it. Where promotions and
directives stand, or whether there are any, makes no difference.
-/

namespace CipherString

namespace Instruction

/-- Whether a token can let suites in or put them out: promotions and directives cannot. -/
def changesMembers (token : String) : Bool :=
  match ofToken token with
  | .modify .moveToEnd _ => false
  | .modify _ _ => true
  | _ => false

end Instruction

namespace Interpreter

def Keeps (interpreter : Interpreter) (tokens : List String) (s : Suite) : Prop :=
  ∃ before token after, tokens = before ++ token :: after ∧
    s ∈ interpreter.targets .append token ∧
      ∀ later ∈ after, s ∉ interpreter.targets .delete later

theorem not_mem_targets_of_mem {interpreter : Interpreter} {modifier other : Modifier}
    {token : String} {s : Suite} (h : s ∈ interpreter.targets modifier token)
    (hother : modifier ≠ other) : s ∉ interpreter.targets other token := by
  intro hs
  rw [← targets_effect] at h hs
  exact hother (Effect.eq_of_mem_targets h hs)

theorem not_keeps_nil (interpreter : Interpreter) (s : Suite) : ¬ interpreter.Keeps [] s := by
  rintro ⟨before, token, after, h, -⟩
  simp at h

theorem keeps_concat (interpreter : Interpreter) (tokens : List String) (last : String)
    (s : Suite) :
    interpreter.Keeps (tokens ++ [last]) s ↔
      (interpreter.Keeps tokens s ∨ s ∈ interpreter.targets .append last) ∧
        s ∉ interpreter.targets .delete last := by
  constructor
  · rintro ⟨before, token, after, h, happend, hlater⟩
    rcases List.eq_nil_or_concat after with rfl | ⟨rest, final, rfl⟩
    · obtain ⟨-, rfl⟩ := List.append_inj' h rfl |>.imp id List.singleton_inj.mp
      exact ⟨Or.inr happend, not_mem_targets_of_mem happend (by decide)⟩
    · have hsplit : tokens ++ [last] = (before ++ token :: rest) ++ [final] := by
        simpa using h
      obtain ⟨rfl, hlast⟩ := List.append_inj' hsplit rfl
      obtain rfl : last = final := List.singleton_inj.mp hlast
      refine ⟨Or.inl ⟨before, token, rest, rfl, happend, ?_⟩, hlater last (by simp)⟩
      intro later hmem
      exact hlater later (by simp [hmem])
  · rintro ⟨hkeeps | happend, hlast⟩
    · obtain ⟨before, token, after, rfl, happend, hlater⟩ := hkeeps
      refine ⟨before, token, after ++ [last], by simp, happend, ?_⟩
      intro later hmem
      rcases List.mem_append.mp hmem with hmem | hmem
      · exact hlater later hmem
      · rwa [List.mem_singleton.mp hmem]
    · exact ⟨tokens, last, [], rfl, happend, by simp⟩

theorem targets_eq_nil_of_not_changesMembers {interpreter : Interpreter} {token : String}
    (h : Instruction.changesMembers token = false) {modifier : Modifier}
    (hmodifier : modifier ≠ .moveToEnd) : interpreter.targets modifier token = [] := by
  rw [List.eq_nil_iff_forall_not_mem]
  intro s hs
  obtain ⟨body, hbody⟩ := exists_ofToken_of_mem_targets hs
  rw [Instruction.changesMembers, hbody] at h
  cases modifier with
  | moveToEnd => exact hmodifier rfl
  | append => cases h
  | ban => cases h
  | delete => cases h

theorem keeps_filter (interpreter : Interpreter) (tokens : List String) (s : Suite) :
    interpreter.Keeps (tokens.filter Instruction.changesMembers) s ↔
      interpreter.Keeps tokens s := by
  induction tokens using List.reverseRecOn with
  | nil => rfl
  | append_singleton tokens last ih =>
      rw [List.filter_append, keeps_concat]
      cases h : Instruction.changesMembers last with
      | true =>
          rw [List.filter_cons_of_pos h, List.filter_nil, keeps_concat, ih]
      | false =>
          rw [List.filter_cons_of_neg (by simp [h]), List.filter_nil, List.append_nil, ih,
            targets_eq_nil_of_not_changesMembers h (by decide),
            targets_eq_nil_of_not_changesMembers h (by decide)]
          simp

theorem mem_chosen_play_iff (interpreter : Interpreter) (tokens : List String) (s : Suite) :
    s ∈ (interpreter.play .empty tokens).chosen ↔
      (∀ token ∈ tokens, s ∉ interpreter.targets .ban token) ∧ interpreter.Keeps tokens s := by
  -- On the last token, since it decides unless it leaves the suite alone.
  induction tokens using List.reverseRecOn with
  | nil =>
      constructor
      · intro h
        exact absurd h List.not_mem_nil
      · rintro ⟨-, h⟩
        exact absurd h (interpreter.not_keeps_nil s)
  | append_singleton tokens last ih =>
      have hcoherent := interpreter.coherent_play_empty tokens
      have hlast := interpreter.play_concat .empty tokens last
      rw [hlast, hcoherent.mem_chosen_act, ← hlast, mem_banned_play_empty, targets_effect,
        targets_effect, ih, keeps_concat]
      simp only [List.mem_append, List.mem_singleton]
      constructor
      · rintro ⟨hin, hdelete, hban⟩
        refine ⟨fun token htoken hs => hban ⟨token, htoken, hs⟩, ?_, hdelete⟩
        rcases hin with ⟨-, hkeeps⟩ | happend
        · exact Or.inl hkeeps
        · exact Or.inr happend
      · rintro ⟨hban, hin, hdelete⟩
        refine ⟨?_, hdelete, fun ⟨token, htoken, hs⟩ => hban token htoken hs⟩
        rcases hin with hkeeps | happend
        · exact Or.inl ⟨fun token htoken => hban token (Or.inl htoken), hkeeps⟩
        · exact Or.inr happend

theorem mem_suites_play_iff (interpreter : Interpreter) (tokens : List String) (s : Suite) :
    s ∈ (interpreter.play .empty tokens).suites ↔
      (∀ token ∈ tokens, s ∉ interpreter.targets .ban token) ∧ interpreter.Keeps tokens s := by
  rw [suites_play_empty]
  exact interpreter.mem_chosen_play_iff tokens s

theorem forall_not_mem_targets_ban_filter (interpreter : Interpreter) (tokens : List String)
    (s : Suite) :
    (∀ token ∈ tokens.filter Instruction.changesMembers, s ∉ interpreter.targets .ban token) ↔
      ∀ token ∈ tokens, s ∉ interpreter.targets .ban token := by
  constructor
  · intro h token htoken hs
    cases hchanges : Instruction.changesMembers token with
    | true => exact h token (List.mem_filter.mpr ⟨htoken, hchanges⟩) hs
    | false =>
        rw [targets_eq_nil_of_not_changesMembers hchanges (by decide)] at hs
        simp at hs
  · intro h token htoken
    exact h token (List.mem_filter.mp htoken).1

/-- A run selects a suite exactly when no token bans it, wherever that token stands, and some token
appends it after which none deletes it. Lists of tokens that differ by promotions and directives
alone select the same suites. -/
theorem mem_suites_run_iff {interpreter : Interpreter} {tokens : List String} {final : Selection}
    (hrun : (interpreter.run tokens).outcome = .ok final) :
    (∀ s, s ∈ final.suites ↔
      (∀ token ∈ spellOutDefault tokens, s ∉ interpreter.targets .ban token) ∧
        ∃ before token after, spellOutDefault tokens = before ++ token :: after ∧
          s ∈ interpreter.targets .append token ∧
            ∀ later ∈ after, s ∉ interpreter.targets .delete later) ∧
    ∀ other otherFinal, (interpreter.steps .empty other).outcome = .ok otherFinal →
      other.filter Instruction.changesMembers =
        (spellOutDefault tokens).filter Instruction.changesMembers →
      ∀ s, s ∈ otherFinal.suites ↔ s ∈ final.suites := by
  obtain ⟨-, rfl⟩ := (interpreter.outcome_steps_eq_ok_iff _ _ _).mp hrun
  refine ⟨interpreter.mem_suites_play_iff (spellOutDefault tokens), ?_⟩
  intro other otherFinal hother hfilter s
  obtain ⟨-, rfl⟩ := (interpreter.outcome_steps_eq_ok_iff _ _ _).mp hother
  rw [mem_suites_play_iff, mem_suites_play_iff, ← forall_not_mem_targets_ban_filter,
    ← keeps_filter, hfilter, forall_not_mem_targets_ban_filter, keeps_filter]

theorem mem_suites_run_of_append_again :
    ∃ final, (sample.run ["DEFAULT", "-ALL", "+aRSA", "ECDHE"]).outcome = .ok final ∧
      ⟨"ecdhe_rsa", "aes_256_gcm", "aead", "sha384"⟩ ∈ final.suites := by
  have hrun : (sample.run ["DEFAULT", "-ALL", "+aRSA", "ECDHE"]).outcome =
      .ok (sample.play .empty (spellOutDefault ["DEFAULT", "-ALL", "+aRSA", "ECDHE"])) := rfl
  refine ⟨_, hrun, ((mem_suites_run_iff hrun).1 _).mpr ⟨by decide, ?_⟩⟩
  exact ⟨["ALL", "!COMPLEMENTOFDEFAULT", "!eNULL", "-ALL", "+aRSA"], "ECDHE", [], rfl, by decide,
    by decide⟩

end Interpreter

end CipherString
