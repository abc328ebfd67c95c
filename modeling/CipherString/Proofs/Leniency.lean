import CipherString.Proofs.Absorption
import CipherString.Proofs.Hoisting
import CipherString.Proofs.Language

namespace CipherString

namespace Selection

/-- An operation on no suites leaves a selection as it is, provided that it shuts out what is shut
out already. -/
theorem Coherent.modify_nil {state : Selection} (h : state.Coherent) (modifier : Modifier) :
    state.modify modifier [] = state := by
  cases modifier with
  | append => exact append_of_forall_mem (by simp)
  | ban => exact ban_nil h.disjoint
  | delete => exact delete_of_forall_not_mem (by simp)
  | moveToEnd => exact moveToEnd_of_forall_not_mem (by simp)

end Selection

namespace Interpreter

/-- The same catalog under another rule for tokens outside the language. -/
def withUnknown (interpreter : Interpreter) (unknown : UnknownToken) : Interpreter :=
  { interpreter with policy := { interpreter.policy with unknownToken := unknown } }

variable (interpreter : Interpreter) {unknown : UnknownToken} {state final : Selection}
  {token expression : String} {tokens : List String} {suites : List Suite}

@[simp] theorem catalog_withUnknown :
    (interpreter.withUnknown unknown).catalog = interpreter.catalog := rfl

@[simp] theorem unknownToken_withUnknown :
    (interpreter.withUnknown unknown).policy.unknownToken = unknown := rfl

/-- The policy has no part in the reading of a token of the language. -/
theorem outcome_read_withUnknown (h : interpreter.catalog.recognizes token)
    (unknown : UnknownToken) :
    ((interpreter.withUnknown unknown).read token).outcome =
      (interpreter.read token).outcome := by
  cases hdirective : Token.isDirective token with
  | true =>
      rw [Catalog.recognizes, if_pos hdirective, Bool.or_eq_true, decide_eq_true_eq] at h
      rw [outcome_read_directive hdirective, outcome_read_directive hdirective]
      rcases h with hsort | hlevel
      · rw [if_pos hsort, if_pos hsort]
      · rw [if_pos (Or.inl hlevel), if_pos (Or.inl hlevel)]
  | false =>
      obtain ⟨modifier, htoken⟩ := Instruction.exists_ofToken_eq_modify hdirective
      obtain ⟨suites, hmeaning⟩ := Catalog.exists_meaning_eq_ok hdirective h
      rw [outcome_read_of_meaning htoken hmeaning]
      exact outcome_read_of_meaning htoken hmeaning

theorem effect_withUnknown (h : interpreter.catalog.recognizes token) (unknown : UnknownToken) :
    (interpreter.withUnknown unknown).effect token = interpreter.effect token := by
  rw [effect, effect, interpreter.outcome_read_withUnknown h]

/-- Leniently, a token outside the language asks for nothing. -/
theorem act_effect_empty (hstate : state.Coherent)
    (h : interpreter.catalog.recognizes token = false) :
    state.act ((interpreter.withUnknown .empty).effect token) = state := by
  cases hdirective : Token.isDirective token with
  | true =>
      rw [Catalog.recognizes, if_pos hdirective, Bool.or_eq_false_iff,
        decide_eq_false_iff_not] at h
      rw [effect, outcome_read_directive hdirective, unknownToken_withUnknown, if_neg h.1,
        if_pos (Or.inr rfl)]
      rfl
  | false =>
      obtain ⟨modifier, htoken⟩ := Instruction.exists_ofToken_eq_modify hdirective
      obtain ⟨part, -, hmeaning⟩ := Catalog.exists_meaning_eq_error hdirective h
      rw [effect, outcome_read_modify htoken, catalog_withUnknown, unknownToken_withUnknown,
        Catalog.outcome_suitesOf_empty, hmeaning]
      exact hstate.modify_nil modifier

theorem play_empty (hstate : state.Coherent) (tokens : List String) :
    (interpreter.withUnknown .empty).play state tokens =
      interpreter.play state (tokens.filter interpreter.catalog.recognizes) := by
  induction tokens generalizing state with
  | nil => rfl
  | cons token tokens ih =>
      cases h : interpreter.catalog.recognizes token with
      | true =>
          rw [List.filter_cons_of_pos h, play_cons, play_cons, interpreter.effect_withUnknown h]
          exact ih (hstate.act _)
      | false =>
          rw [List.filter_cons_of_neg (by simp [h]), play_cons,
            interpreter.act_effect_empty hstate h]
          exact ih hstate

theorem play_withUnknown (h : ∀ token ∈ tokens, interpreter.catalog.recognizes token)
    (state : Selection) (unknown : UnknownToken) :
    (interpreter.withUnknown unknown).play state tokens = interpreter.play state tokens := by
  induction tokens generalizing state with
  | nil => rfl
  | cons token tokens ih =>
      obtain ⟨htoken, htokens⟩ := List.forall_mem_cons.mp h
      rw [play_cons, play_cons, interpreter.effect_withUnknown htoken, ih htokens]

theorem understands_strict :
    (interpreter.withUnknown .strict).understands = interpreter.catalog.recognizes :=
  understands_eq_recognizes rfl

/-- Strictly, a step fails exactly on the tokens outside the language, whatever it is applied to. -/
theorem recognizes_eq_false_iff_step (state : Selection) (token : String) :
    interpreter.catalog.recognizes token = false ↔
      ∃ fault, ((interpreter.withUnknown .strict).step state token).outcome = .error fault := by
  rw [← understands_strict, understands, outcome_step]
  rcases ((interpreter.withUnknown .strict).read token).outcome with fault | effect
  · exact iff_of_true rfl ⟨fault, rfl⟩
  · constructor
    · intro h
      cases h
    · rintro ⟨fault, h⟩
      cases h

theorem outcome_steps_empty (tokens : List String) :
    ((interpreter.withUnknown .empty).steps .empty tokens).outcome =
      ((interpreter.withUnknown .strict).steps .empty
        (tokens.filter interpreter.catalog.recognizes)).outcome := by
  have hkept : ∀ token ∈ tokens.filter interpreter.catalog.recognizes,
      interpreter.catalog.recognizes token := fun token htoken => (List.mem_filter.mp htoken).2
  have hempty : ((interpreter.withUnknown .empty).steps .empty tokens).outcome =
      .ok (interpreter.play .empty (tokens.filter interpreter.catalog.recognizes)) := by
    refine (outcome_steps_eq_ok_iff _ _ _ _).mpr ⟨fun token _ => understands_of_empty rfl token, ?_⟩
    exact interpreter.play_empty Selection.coherent_empty tokens
  have hstrict : ((interpreter.withUnknown .strict).steps .empty
      (tokens.filter interpreter.catalog.recognizes)).outcome =
        .ok (interpreter.play .empty (tokens.filter interpreter.catalog.recognizes)) := by
    refine (outcome_steps_eq_ok_iff _ _ _ _).mpr ⟨?_, interpreter.play_withUnknown hkept _ _⟩
    rw [understands_strict]
    exact hkept
  rw [hempty, hstrict]

/-- The lenient policy is the strict one on the tokens of the language: it ends where the strict one
ends after all others are left out, and these are the tokens that the strict one refuses. So what
selects something strictly selects the same leniently. -/
theorem run_empty_eq_steps_strict (interpreter : Interpreter) :
    (∀ tokens, ∃ final,
      ((interpreter.withUnknown .empty).run tokens).outcome = .ok final ∧
        ((interpreter.withUnknown .strict).steps .empty
          ((spellOutDefault tokens).filter interpreter.catalog.recognizes)).outcome = .ok final) ∧
    (∀ state token, interpreter.catalog.recognizes token = false ↔
      ∃ fault, ((interpreter.withUnknown .strict).step state token).outcome = .error fault) ∧
    ∀ expression suites,
      ((interpreter.withUnknown .strict).evaluate expression).outcome = .ok suites →
        ((interpreter.withUnknown .empty).evaluate expression).outcome = .ok suites := by
  refine ⟨?_, interpreter.recognizes_eq_false_iff_step, ?_⟩
  · intro tokens
    have hsame := interpreter.outcome_steps_empty (spellOutDefault tokens)
    have hrun : ((interpreter.withUnknown .empty).run tokens).outcome =
        .ok ((interpreter.withUnknown .empty).play .empty (spellOutDefault tokens)) :=
      (outcome_steps_eq_ok_iff _ _ _ _).mpr ⟨fun token _ => understands_of_empty rfl token, rfl⟩
    exact ⟨_, hrun, hsame.symm.trans hrun⟩
  · intro expression suites hstrict
    obtain ⟨hunderstood, rfl⟩ := outcome_evaluate_eq_ok_iff.mp hstrict
    rw [understands_strict] at hunderstood
    refine outcome_evaluate_eq_ok_iff.mpr ⟨fun token _ => understands_of_empty rfl token, ?_⟩
    rw [interpreter.play_empty Selection.coherent_empty, List.filter_eq_self.mpr hunderstood,
      interpreter.play_withUnknown hunderstood]

/-- Tokens are left out after the default token has been spelled out: here it is not the first, and
does not become it. -/
theorem run_empty_eq_steps_strict_of_NOPE :
    (∃ final,
      ((sample.withUnknown .empty).run ["@NOPE", "DEFAULT", "-TYPO", "kRSA"]).outcome =
          .ok final ∧
        ((sample.withUnknown .strict).steps .empty ["kRSA"]).outcome = .ok final) ∧
      ((sample.withUnknown .strict).evaluate "DEFAULT:NULL-MD5").outcome =
        .ok [⟨"ecdhe_rsa", "aes_256_gcm", "aead", "sha384"⟩,
          ⟨"rsa", "null", "md5", "default_prf"⟩] ∧
      ((sample.withUnknown .empty).evaluate "DEFAULT:NULL-MD5").outcome =
        .ok [⟨"ecdhe_rsa", "aes_256_gcm", "aead", "sha384"⟩,
          ⟨"rsa", "null", "md5", "default_prf"⟩] := by
  have hkept : (spellOutDefault ["@NOPE", "DEFAULT", "-TYPO", "kRSA"]).filter
      sample.catalog.recognizes = ["kRSA"] := by
    rw [← understands_strict]
    rfl
  have hrun := (run_empty_eq_steps_strict sample).1 ["@NOPE", "DEFAULT", "-TYPO", "kRSA"]
  rw [hkept] at hrun
  have hstrict : ((sample.withUnknown .strict).evaluate "DEFAULT:NULL-MD5").outcome =
      .ok [⟨"ecdhe_rsa", "aes_256_gcm", "aead", "sha384"⟩,
        ⟨"rsa", "null", "md5", "default_prf"⟩] := rfl
  exact ⟨hrun, hstrict, (run_empty_eq_steps_strict sample).2.2 _ _ hstrict⟩

end Interpreter

end CipherString
