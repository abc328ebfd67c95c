import CipherString.Proofs.Invariant
import CipherString.Proofs.Restriction

namespace CipherString

def Instruction.isBan (token : String) : Bool :=
  match ofToken token with
  | .modify .ban _ => true
  | _ => false

theorem Selection.ban_of_forall_mem {state : Selection} {suites : List Suite}
    (h : ∀ s ∈ suites, s ∈ state.banned) (hstate : ∀ s ∈ state.chosen, s ∉ state.banned) :
    state.ban suites = state := by
  have hbanned : state.banned.addAll suites = state.banned := Distinct.addAll_of_forall_mem h
  have hchosen : (state.ban suites).chosen = state.chosen := by
    show state.chosen.filter (· ∉ state.banned.addAll suites) = state.chosen
    rw [hbanned, List.filter_eq_self]
    simpa using hstate
  exact ext_of_chosen_of_toList_banned hchosen (congrArg Distinct.toList hbanned)

theorem Selection.ban_nil {state : Selection} (h : ∀ s ∈ state.chosen, s ∉ state.banned) :
    state.ban [] = state :=
  ban_of_forall_mem (by simp) h

theorem Effect.targets_restrict (p : Suite → Bool) (modifier : Modifier) (effect : Effect) :
    (effect.restrict p).targets modifier = (effect.targets modifier).filter p := by
  cases effect with
  | sort => rfl
  | idle => rfl
  | modify other suites =>
      simp only [restrict, targets]
      split
      · rfl
      · rfl

namespace Interpreter

variable (interpreter : Interpreter)

def banned (tokens : List String) : List Suite :=
  tokens.flatMap (interpreter.targets .ban)

variable {interpreter}

theorem targets_ban_eq_nil {token : String} (h : Instruction.isBan token = false) :
    interpreter.targets .ban token = [] := by
  rw [List.eq_nil_iff_forall_not_mem]
  intro s hs
  obtain ⟨body, hbody⟩ := exists_ofToken_of_mem_targets hs
  rw [Instruction.isBan, hbody] at h
  cases h

theorem act_restrict_of_isBan {p : Suite → Bool} {state : Selection} {token : String}
    (hban : Instruction.isBan token = true)
    (hp : ∀ s ∈ interpreter.targets .ban token, ¬ p s) (hstate : ∀ s, s ∉ state.banned) :
    state.act ((interpreter.effect token).restrict p) = state := by
  have hbody : ∃ body, Instruction.ofToken token = .modify .ban body := by
    rw [Instruction.isBan] at hban
    split at hban
    · next body h => exact ⟨body, h⟩
    · cases hban
  obtain ⟨body, hbody⟩ := hbody
  rcases interpreter.effect_of_ofToken hbody with heffect | heffect
  · rw [heffect, Effect.restrict, List.filter_eq_nil_iff.mpr hp, Selection.act_ban]
    exact Selection.ban_nil fun s _ => hstate s
  · rw [heffect]
    rfl

theorem foldl_restrict_eq_foldl_filter {p : Suite → Bool} {tokens : List String}
    (hp : ∀ token ∈ tokens, ∀ s ∈ interpreter.targets .ban token, ¬ p s) {state : Selection}
    (hstate : ∀ s, s ∉ state.banned) :
    tokens.foldl (fun state token => state.act ((interpreter.effect token).restrict p)) state =
      (tokens.filter (!Instruction.isBan ·)).foldl
        (fun state token => state.act ((interpreter.effect token).restrict p)) state := by
  induction tokens generalizing state with
  | nil => rfl
  | cons token tokens ih =>
      have htokens := fun later hlater => hp later (List.mem_cons_of_mem token hlater)
      cases hban : Instruction.isBan token with
      | true =>
          rw [List.filter_cons_of_neg (by simp [hban]), List.foldl_cons,
            act_restrict_of_isBan hban (hp token List.mem_cons_self) hstate]
          exact ih htokens hstate
      | false =>
          rw [List.filter_cons_of_pos (by simp [hban]), List.foldl_cons, List.foldl_cons]
          refine ih htokens fun s hs => ?_
          rw [Selection.mem_banned_act, Effect.targets_restrict, targets_effect,
            targets_ban_eq_nil hban] at hs
          simp [hstate s] at hs

variable (interpreter)

/-- On the suites that nothing bans, a run with bans and the run without them are alike. -/
theorem suites_play_eq_filter (tokens : List String) :
    (interpreter.play .empty tokens).suites =
      (interpreter.play .empty (tokens.filter (!Instruction.isBan ·))).suites.filter
        (· ∉ interpreter.banned tokens) := by
  have halike : (interpreter.play .empty tokens).restrict (· ∉ interpreter.banned tokens) =
      (interpreter.play .empty (tokens.filter (!Instruction.isBan ·))).restrict
        (· ∉ interpreter.banned tokens) := by
    rw [restrict_play, restrict_play, foldl_restrict_eq_foldl_filter]
    · intro token htoken s hs
      have hbanned : s ∈ interpreter.banned tokens := List.mem_flatMap.mpr ⟨token, htoken, hs⟩
      simp [hbanned]
    · exact fun s hs => Distinct.not_mem_empty s (Distinct.mem_filter.mp hs).1
  have hchosen := congrArg Selection.chosen halike
  simp only [Selection.chosen_restrict] at hchosen
  have hmem : ∀ s, s ∈ (interpreter.play .empty tokens).banned ↔ s ∈ interpreter.banned tokens := by
    intro s
    rw [mem_banned_play_empty, banned, List.mem_flatMap]
  rw [interpreter.suites_play_empty (tokens.filter (!Instruction.isBan ·)), Selection.suites]
  simp only [hmem]
  exact hchosen

theorem suites_play_hoist {tokens bans : List String}
    (hperm : bans.Perm (tokens.filter Instruction.isBan)) :
    (interpreter.play .empty (bans ++ tokens.filter (!Instruction.isBan ·))).suites =
      (interpreter.play .empty tokens).suites := by
  have hall : (bans ++ tokens.filter (!Instruction.isBan ·)).Perm tokens :=
    (hperm.append_right _).trans (List.filter_append_perm Instruction.isBan tokens)
  have hbans : bans.filter (!Instruction.isBan ·) = [] := by
    rw [List.filter_eq_nil_iff]
    intro token htoken
    have hban := (List.mem_filter.mp (hperm.mem_iff.mp htoken)).2
    simp [hban]
  have hrest : (bans ++ tokens.filter (!Instruction.isBan ·)).filter (!Instruction.isBan ·) =
      tokens.filter (!Instruction.isBan ·) := by
    rw [List.filter_append, hbans, List.nil_append, List.filter_filter]
    simp only [Bool.and_self]
  have hbanned : ∀ s, s ∈ interpreter.banned (bans ++ tokens.filter (!Instruction.isBan ·)) ↔
      s ∈ interpreter.banned tokens := by
    intro s
    simp only [banned, List.mem_flatMap, hall.mem_iff]
  rw [suites_play_eq_filter, interpreter.suites_play_eq_filter tokens, hrest]
  simp only [hbanned]

/-- Bans can be hoisted: a run gives the list of the run without its bans, less what they shut out,
and all bans may come first, in any order. -/
theorem suites_steps_hoist {tokens : List String} {final : Selection}
    (hrun : (interpreter.steps .empty tokens).outcome = .ok final) :
    (∃ unbanned, (interpreter.steps .empty (tokens.filter (!Instruction.isBan ·))).outcome =
        .ok unbanned ∧
      final.suites = unbanned.suites.filter (· ∉ tokens.flatMap (interpreter.targets .ban))) ∧
    ∀ bans, bans.Perm (tokens.filter Instruction.isBan) →
      ∃ hoisted, (interpreter.steps .empty
          (bans ++ tokens.filter (!Instruction.isBan ·))).outcome = .ok hoisted ∧
        hoisted.suites = final.suites := by
  obtain ⟨hunderstood, rfl⟩ := (interpreter.outcome_steps_eq_ok_iff _ _ _).mp hrun
  constructor
  · refine ⟨_, (interpreter.outcome_steps_eq_ok_iff _ _ _).mpr ⟨?_, rfl⟩, ?_⟩
    · intro token htoken
      exact hunderstood token (List.mem_filter.mp htoken).1
    · exact interpreter.suites_play_eq_filter tokens
  · intro bans hperm
    refine ⟨_, (interpreter.outcome_steps_eq_ok_iff _ _ _).mpr ⟨?_, rfl⟩, ?_⟩
    · intro token htoken
      rcases List.mem_append.mp htoken with htoken | htoken
      · exact hunderstood token (List.mem_filter.mp (hperm.mem_iff.mp htoken)).1
      · exact hunderstood token (List.mem_filter.mp htoken).1
    · exact interpreter.suites_play_hoist hperm

theorem suites_steps_hoist_of_two_bans :
    ∃ final hoisted,
      (sample.steps .empty ["NULL-MD5", "ALL", "!RSA", "ECDHE", "!NULL-MD5"]).outcome =
          .ok final ∧
        (sample.steps .empty ["!NULL-MD5", "!RSA", "NULL-MD5", "ALL", "ECDHE"]).outcome =
          .ok hoisted ∧
        hoisted.suites = final.suites ∧ final.suites ≠ [] := by
  have hrun : (sample.steps .empty ["NULL-MD5", "ALL", "!RSA", "ECDHE", "!NULL-MD5"]).outcome =
      .ok (sample.play .empty ["NULL-MD5", "ALL", "!RSA", "ECDHE", "!NULL-MD5"]) := rfl
  obtain ⟨hoisted, hhoisted, hsuites⟩ :=
    (sample.suites_steps_hoist hrun).2 ["!NULL-MD5", "!RSA"] (by decide)
  exact ⟨_, hoisted, hrun, hhoisted, hsuites, by decide⟩

end Interpreter

end CipherString
