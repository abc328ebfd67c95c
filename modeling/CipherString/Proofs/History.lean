import CipherString.Proofs.Denotation
import CipherString.Proofs.Invariant
import Mathlib.Data.List.Induction

namespace CipherString

namespace Interpreter

/-- Applies a token; if it fails, the selection stays as it is. -/
def persist (interpreter : Interpreter) (state : Selection) (token : String) : Selection :=
  match (interpreter.step state token).outcome with
  | .ok next => next
  | .error _ => state

/-- The selection after tokens that are applied one after another to an empty one. -/
def history (interpreter : Interpreter) (tokens : List String) : Selection :=
  tokens.foldl interpreter.persist .empty

/-- What is to hold of a selection after the tokens of its history. -/
structure Sound (interpreter : Interpreter) (tokens : List String) (state : Selection) : Prop
    extends state.Coherent where
  suites_eq : state.suites = state.chosen
  mem_banned_iff : ∀ s, s ∈ state.banned ↔
    ∃ body suites, "!" ++ body ∈ tokens ∧
      (interpreter.catalog.suitesOf interpreter.policy.unknownToken body).outcome = .ok suites ∧
        s ∈ suites
  known : ∀ s, s ∈ state.chosen ∨ s ∈ state.banned →
    s ∈ interpreter.catalog.suites ∨ ∃ name, interpreter.catalog.suiteNamed name = some s

variable {interpreter : Interpreter} {state : Selection} {token : String} {tokens : List String}
  {s : Suite}

theorem persist_eq_act :
    interpreter.persist state token = state.act (interpreter.effect token) := by
  rw [persist, outcome_step, effect]
  rcases (interpreter.read token).outcome with fault | effect
  · rfl
  · rfl

/-- A ban can be applied exactly if its body is understood, whatever the selection. -/
theorem outcome_step_ban (interpreter : Interpreter) (state : Selection) (body : String) :
    (interpreter.step state ("!" ++ body)).outcome =
      (interpreter.catalog.suitesOf interpreter.policy.unknownToken body).outcome.map
        state.ban := by
  rw [outcome_step, outcome_read_modify (Instruction.ofToken_ban body)]
  rcases (interpreter.catalog.suitesOf interpreter.policy.unknownToken body).outcome with
    fault | suites
  · rfl
  · rfl

theorem mem_targets_ban_iff :
    s ∈ interpreter.targets .ban token ↔
      ∃ body suites, "!" ++ body = token ∧
        (interpreter.catalog.suitesOf interpreter.policy.unknownToken body).outcome = .ok suites ∧
          s ∈ suites := by
  constructor
  · intro hs
    obtain ⟨body, suites, hbody, hsuites, htargets⟩ := exists_suitesOf_of_mem_targets hs
    exact ⟨body, suites, (Instruction.eq_append_of_ofToken_ban hbody).symm, hsuites, htargets ▸ hs⟩
  · rintro ⟨body, suites, rfl, hsuites, hs⟩
    rw [targets_of_ofToken (Instruction.ofToken_ban body), hsuites]
    exact hs

theorem known_of_mem_targets {modifier : Modifier} (hs : s ∈ interpreter.targets modifier token) :
    s ∈ interpreter.catalog.suites ∨ ∃ name, interpreter.catalog.suiteNamed name = some s := by
  rcases interpreter.targets_cases modifier token with ⟨name, _, -, hname, htargets⟩ | ⟨p, htargets⟩
  · rw [htargets, List.mem_singleton] at hs
    exact Or.inr ⟨name, hs ▸ hname⟩
  · rw [htargets] at hs
    exact Or.inl (List.mem_filter.mp hs).1

theorem sound_empty (interpreter : Interpreter) : interpreter.Sound [] .empty where
  toCoherent := Selection.coherent_empty
  suites_eq := rfl
  mem_banned_iff := by simp
  known := by simp

/-- A step keeps all of it, be the token understood or not. -/
theorem Sound.persist (h : interpreter.Sound tokens state) (token : String) :
    interpreter.Sound (tokens ++ [token]) (interpreter.persist state token) := by
  rw [persist_eq_act]
  have hcoherent : (state.act (interpreter.effect token)).Coherent := h.toCoherent.act _
  have hbanned : ∀ s, s ∈ (state.act (interpreter.effect token)).banned ↔
      s ∈ state.banned ∨ s ∈ interpreter.targets .ban token := by
    intro s
    rw [Selection.mem_banned_act, targets_effect]
  refine ⟨hcoherent, hcoherent.suites_eq, ?_, ?_⟩
  · intro s
    rw [hbanned, h.mem_banned_iff, mem_targets_ban_iff]
    simp only [List.mem_append, List.mem_singleton]
    grind
  · rintro s (hs | hs)
    · rw [h.toCoherent.mem_chosen_act, targets_effect] at hs
      rcases hs.1 with hs | hs
      · exact h.known s (Or.inl hs)
      · exact known_of_mem_targets hs
    · rcases (hbanned s).mp hs with hs | hs
      · exact h.known s (Or.inr hs)
      · exact known_of_mem_targets hs

theorem history_append (interpreter : Interpreter) (tokens later : List String) :
    interpreter.history (tokens ++ later) =
      later.foldl interpreter.persist (interpreter.history tokens) :=
  List.foldl_append

theorem history_concat (interpreter : Interpreter) (tokens : List String) (token : String) :
    interpreter.history (tokens ++ [token]) =
      (interpreter.history tokens).act (interpreter.effect token) := by
  rw [history_append]
  exact persist_eq_act

theorem sound_history_tokens (interpreter : Interpreter) (tokens : List String) :
    interpreter.Sound tokens (interpreter.history tokens) := by
  induction tokens using List.reverseRecOn with
  | nil => exact interpreter.sound_empty
  | append_singleton tokens token ih =>
      rw [history_append]
      exact ih.persist token

theorem mem_banned_history_append (interpreter : Interpreter) (tokens later : List String)
    (hs : s ∈ (interpreter.history tokens).banned) :
    s ∈ (interpreter.history (tokens ++ later)).banned := by
  obtain ⟨body, suites, hbody, hsuites, hs⟩ :=
    ((interpreter.sound_history_tokens tokens).mem_banned_iff s).mp hs
  apply ((interpreter.sound_history_tokens (tokens ++ later)).mem_banned_iff s).mpr
  exact ⟨body, suites, List.mem_append_left later hbody, hsuites, hs⟩

/-- After any tokens, failed ones included, the selection is sound, and what was shut out stays so.
A ban among the tokens counts exactly if its body is understood, for then it can be applied. -/
theorem sound_history (interpreter : Interpreter) (tokens : List String) :
    interpreter.Sound tokens (interpreter.history tokens) ∧
    (∀ later, ∀ s ∈ (interpreter.history tokens).banned,
      s ∈ (interpreter.history (tokens ++ later)).banned) ∧
    ∀ state body, (interpreter.step state ("!" ++ body)).outcome =
      (interpreter.catalog.suitesOf interpreter.policy.unknownToken body).outcome.map
        state.ban := by
  refine ⟨interpreter.sound_history_tokens tokens, ?_, interpreter.outcome_step_ban⟩
  intro later s hs
  exact interpreter.mem_banned_history_append tokens later hs

/-- A ban that fails shuts nothing out, and one before it holds on. -/
theorem sound_history_of_failures :
    sample.Sound ["!NULL-MD5", "ALL", "!kRSA+TYPO", "@NOPE", "NULL-MD5"]
        (sample.history ["!NULL-MD5", "ALL", "!kRSA+TYPO", "@NOPE", "NULL-MD5"]) ∧
      (sample.history ["!NULL-MD5", "ALL", "!kRSA+TYPO", "@NOPE", "NULL-MD5"]).chosen =
        [⟨"ecdhe_rsa", "aes_256_gcm", "aead", "sha384"⟩,
          ⟨"rsa", "aes_128_cbc", "sha", "default_prf"⟩] ∧
      ⟨"rsa", "null", "md5", "default_prf"⟩ ∈
        (sample.history (["!NULL-MD5"] ++
          ["ALL", "!kRSA+TYPO", "@NOPE", "NULL-MD5"])).banned := by
  refine ⟨(sound_history sample _).1, by decide, ?_⟩
  exact (sound_history sample ["!NULL-MD5"]).2.1 _ _ (by decide)

end Interpreter

end CipherString
