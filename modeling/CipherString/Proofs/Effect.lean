import CipherString.Interpreter
import Mathlib.Data.List.Forall2

/-!
Reading a token and acting on a selection are two things. What a token means, what is reported about
it and whether it is understood at all depend on the catalog and the policy alone, never on the
selection it is applied to. So a run over tokens succeeds exactly when each of them is understood,
and its result is that of their effects, one after another.
-/

namespace CipherString

inductive Effect where
  | sort
  | idle
  | modify (modifier : Modifier) (suites : List Suite)
  deriving DecidableEq

def Effect.targets (modifier : Modifier) : Effect → List Suite
  | .modify other suites => if other = modifier then suites else []
  | _ => []

theorem Effect.eq_of_mem_targets {effect : Effect} {modifier other : Modifier} {s : Suite}
    (h : s ∈ effect.targets modifier) (hother : s ∈ effect.targets other) : modifier = other := by
  cases effect with
  | sort => simp [targets] at h
  | idle => simp [targets] at h
  | modify actual suites =>
      rw [targets] at h hother
      split at h
      · next hmodifier =>
          split at hother
          · next hactual => exact hmodifier.symm.trans hactual
          · simp at hother
      · simp at h

def Selection.act (state : Selection) : Effect → Selection
  | .sort => state.sortByStrength
  | .idle => state
  | .modify modifier suites => state.modify modifier suites

namespace Selection

@[simp] theorem act_sort (state : Selection) : state.act .sort = state.sortByStrength := rfl

@[simp] theorem act_idle (state : Selection) : state.act .idle = state := rfl

@[simp] theorem act_append (state : Selection) (suites : List Suite) :
    state.act (.modify .append suites) = state.append suites := rfl

@[simp] theorem act_ban (state : Selection) (suites : List Suite) :
    state.act (.modify .ban suites) = state.ban suites := rfl

@[simp] theorem act_delete (state : Selection) (suites : List Suite) :
    state.act (.modify .delete suites) = state.delete suites := rfl

@[simp] theorem act_moveToEnd (state : Selection) (suites : List Suite) :
    state.act (.modify .moveToEnd suites) = state.moveToEnd suites := rfl

end Selection

namespace Interpreter

/-- The effect of a token, with what is to be reported about it. -/
def read (interpreter : Interpreter) (token : String) : Logged Effect :=
  match Instruction.ofToken token with
  | .sortByStrength => pure .sort
  | .securityLevel => do
    Logged.report (.securityLevelIgnored token)
    pure .idle
  | .unknownDirective =>
    match interpreter.policy.unknownToken with
    | .strict => Logged.fail (.unrecognized token token)
    | .empty => do
      Logged.report (.directiveIgnored token)
      pure .idle
  | .modify modifier body => do
    let suites ← interpreter.catalog.suitesOf interpreter.policy.unknownToken body
    pure (.modify modifier suites)

theorem outcome_read_modify {interpreter : Interpreter} {token body : String} {modifier : Modifier}
    (h : Instruction.ofToken token = .modify modifier body) :
    (interpreter.read token).outcome =
      (interpreter.catalog.suitesOf interpreter.policy.unknownToken body).outcome.map
        (.modify modifier ·) := by
  rw [read, h]
  simp only [Logged.outcome_bind]
  rcases (interpreter.catalog.suitesOf interpreter.policy.unknownToken body).outcome with
    fault | suites
  · rfl
  · rfl

theorem outcome_read_of_suitesOf {interpreter : Interpreter} {token body : String}
    {modifier : Modifier} {suites : List Suite}
    (htoken : Instruction.ofToken token = .modify modifier body)
    (hsuites : (interpreter.catalog.suitesOf interpreter.policy.unknownToken body).outcome =
      .ok suites) :
    (interpreter.read token).outcome = .ok (.modify modifier suites) := by
  rw [outcome_read_modify htoken, hsuites]
  rfl

theorem perform_eq_read (interpreter : Interpreter) (state : Selection) (token : String) :
    interpreter.perform state token (Instruction.ofToken token) =
      interpreter.read token >>= fun effect => pure (state.act effect) := by
  rw [read]
  cases Instruction.ofToken token with
  | sortByStrength => rfl
  | securityLevel => simp [perform, Selection.act]
  | unknownDirective =>
      cases h : interpreter.policy.unknownToken with
      | strict =>
          simp only [perform, h]
          rfl
      | empty => simp [perform, h, Selection.act]
  | modify modifier body => simp [perform, Selection.act]

theorem outcome_step (interpreter : Interpreter) (state : Selection) (token : String) :
    (interpreter.step state token).outcome =
      (interpreter.read token).outcome.map state.act := by
  rw [step, perform_eq_read]
  simp only [Logged.outcome_bind]
  cases (interpreter.read token).outcome with
  | error fault => rfl
  | ok effect => rfl

theorem steps_append (interpreter : Interpreter) (state : Selection) (tokens later : List String) :
    interpreter.steps state (tokens ++ later) =
      interpreter.steps state tokens >>= fun next => interpreter.steps next later :=
  List.foldlM_append

theorem outcome_steps_cons (interpreter : Interpreter) (state : Selection) (token : String)
    (tokens : List String) :
    (interpreter.steps state (token :: tokens)).outcome =
      (interpreter.read token).outcome >>= fun effect =>
        (interpreter.steps (state.act effect) tokens).outcome := by
  rw [steps, List.foldlM_cons, Logged.outcome_bind, outcome_step]
  rcases (interpreter.read token).outcome with fault | effect
  · rfl
  · rfl

/-- Each of the tokens is understood, and has the effect in the same place. -/
abbrev Reads (interpreter : Interpreter) : List String → List Effect → Prop :=
  List.Forall₂ fun token effect => (interpreter.read token).outcome = .ok effect

theorem outcome_steps_of_reads {interpreter : Interpreter} {tokens : List String}
    {effects : List Effect} (h : interpreter.Reads tokens effects) (state : Selection) :
    (interpreter.steps state tokens).outcome = .ok (effects.foldl Selection.act state) := by
  induction h generalizing state with
  | nil => rfl
  | cons htoken _ ih =>
      rw [outcome_steps_cons, htoken]
      exact ih _

def understands (interpreter : Interpreter) (token : String) : Bool :=
  (interpreter.read token).outcome.isOk

/-- The effect of a token; one that is not understood has none. -/
def effect (interpreter : Interpreter) (token : String) : Effect :=
  (interpreter.read token).outcome.toOption.getD .idle

theorem understands_of_outcome_read {interpreter : Interpreter} {token : String} {effect : Effect}
    (h : (interpreter.read token).outcome = .ok effect) : interpreter.understands token := by
  rw [understands, h]
  rfl

theorem understands_of_outcome_read_error {interpreter : Interpreter} {token : String}
    {fault : Fault} (h : (interpreter.read token).outcome = .error fault) :
    interpreter.understands token = false := by
  rw [understands, h]
  rfl

theorem effect_of_outcome_read {interpreter : Interpreter} {token : String} {effect : Effect}
    (h : (interpreter.read token).outcome = .ok effect) : interpreter.effect token = effect := by
  rw [Interpreter.effect, h]
  rfl

theorem outcome_read_of_understands {interpreter : Interpreter} {token : String}
    (h : interpreter.understands token) :
    (interpreter.read token).outcome = .ok (interpreter.effect token) := by
  rw [effect]
  rw [understands] at h
  cases hread : (interpreter.read token).outcome with
  | error fault =>
      rw [hread] at h
      exact absurd h nofun
  | ok effect => rfl

theorem outcome_step_of_understands {interpreter : Interpreter} {token : String}
    (h : interpreter.understands token) (state : Selection) :
    (interpreter.step state token).outcome = .ok (state.act (interpreter.effect token)) := by
  rw [outcome_step, outcome_read_of_understands h]
  rfl

/-- The suites that a token asks to treat in a given way: those that its body denotes, if it has
that modifier. -/
def targets (interpreter : Interpreter) (modifier : Modifier) (token : String) : List Suite :=
  match Instruction.ofToken token with
  | .modify other body =>
    if other = modifier then
      (interpreter.catalog.suitesOf interpreter.policy.unknownToken body).outcome.toOption.getD []
    else []
  | _ => []

@[simp] theorem targets_effect (interpreter : Interpreter) (modifier : Modifier)
    (token : String) :
    (interpreter.effect token).targets modifier = interpreter.targets modifier token := by
  rw [effect, read, targets]
  cases Instruction.ofToken token with
  | sortByStrength => rfl
  | securityLevel => rfl
  | unknownDirective =>
      cases interpreter.policy.unknownToken with
      | strict => rfl
      | empty => rfl
  | modify other body =>
      simp only [Logged.outcome_bind]
      cases (interpreter.catalog.suitesOf interpreter.policy.unknownToken body).outcome with
      | error fault => exact (ite_self ([] : List Suite)).symm
      | ok suites => rfl

theorem exists_ofToken_of_mem_targets {interpreter : Interpreter} {modifier : Modifier}
    {token : String} {s : Suite} (h : s ∈ interpreter.targets modifier token) :
    ∃ body, Instruction.ofToken token = .modify modifier body := by
  rw [targets] at h
  cases hinstruction : Instruction.ofToken token with
  | sortByStrength =>
      rw [hinstruction] at h
      exact absurd h List.not_mem_nil
  | securityLevel =>
      rw [hinstruction] at h
      exact absurd h List.not_mem_nil
  | unknownDirective =>
      rw [hinstruction] at h
      exact absurd h List.not_mem_nil
  | modify other body =>
      rw [hinstruction] at h
      by_cases hother : other = modifier
      · exact ⟨body, by rw [hother]⟩
      · simp [hother] at h

theorem effect_of_ofToken (interpreter : Interpreter) {token body : String} {modifier : Modifier}
    (h : Instruction.ofToken token = .modify modifier body) :
    interpreter.effect token = .modify modifier (interpreter.targets modifier token) ∨
      interpreter.effect token = .idle := by
  rw [effect, outcome_read_modify h, targets, h]
  simp only [if_true]
  cases (interpreter.catalog.suitesOf interpreter.policy.unknownToken body).outcome with
  | error fault => exact Or.inr rfl
  | ok suites => exact Or.inl rfl

theorem effect_eq_sort_iff (interpreter : Interpreter) (token : String) :
    interpreter.effect token = .sort ↔ token = Instruction.sortDirective := by
  constructor
  · intro h
    cases hinstruction : Instruction.ofToken token with
    | sortByStrength => exact Instruction.eq_sortDirective_of_ofToken hinstruction
    | securityLevel =>
        rw [effect, read, hinstruction] at h
        cases h
    | unknownDirective =>
        rw [effect, read, hinstruction] at h
        cases hunknown : interpreter.policy.unknownToken with
        | strict =>
            simp only [hunknown] at h
            cases h
        | empty =>
            simp only [hunknown] at h
            cases h
    | modify modifier body =>
        rcases interpreter.effect_of_ofToken hinstruction with heffect | heffect
        · rw [heffect] at h
          cases h
        · rw [heffect] at h
          cases h
  · rintro rfl
    rfl

/-- The selection after the effects of tokens, those that are not understood passed over. -/
def play (interpreter : Interpreter) (state : Selection) (tokens : List String) : Selection :=
  tokens.foldl (fun state token => state.act (interpreter.effect token)) state

@[simp] theorem play_nil (interpreter : Interpreter) (state : Selection) :
    interpreter.play state [] = state := rfl

@[simp] theorem play_cons (interpreter : Interpreter) (state : Selection) (token : String)
    (tokens : List String) :
    interpreter.play state (token :: tokens) =
      interpreter.play (state.act (interpreter.effect token)) tokens := rfl

theorem play_append (interpreter : Interpreter) (state : Selection) (before after : List String) :
    interpreter.play state (before ++ after) =
      interpreter.play (interpreter.play state before) after := by
  simp only [play, List.foldl_append]

theorem play_concat (interpreter : Interpreter) (state : Selection) (tokens : List String)
    (last : String) :
    interpreter.play state (tokens ++ [last]) =
      (interpreter.play state tokens).act (interpreter.effect last) :=
  interpreter.play_append state tokens [last]

/-- A run succeeds exactly when every token is understood, whatever the order. -/
theorem outcome_steps_eq_ok_iff (interpreter : Interpreter) (state final : Selection)
    (tokens : List String) :
    (interpreter.steps state tokens).outcome = .ok final ↔
      (∀ token ∈ tokens, interpreter.understands token) ∧
        interpreter.play state tokens = final := by
  induction tokens generalizing state with
  | nil => simp [steps]
  | cons token tokens ih =>
      rw [outcome_steps_cons]
      cases h : (interpreter.read token).outcome with
      | error fault =>
          have hnot := understands_of_outcome_read_error h
          constructor
          · intro hrun
            cases hrun
          · rintro ⟨hall, -⟩
            rw [hall token List.mem_cons_self] at hnot
            exact absurd hnot nofun
      | ok effect =>
          have hunderstood := understands_of_outcome_read h
          rw [play_cons, effect_of_outcome_read h, List.forall_mem_cons]
          constructor
          · intro hrun
            obtain ⟨hall, hplay⟩ := (ih (state.act effect)).mp hrun
            exact ⟨⟨hunderstood, hall⟩, hplay⟩
          · rintro ⟨⟨-, hall⟩, hplay⟩
            exact (ih (state.act effect)).mpr ⟨hall, hplay⟩

theorem outcome_evaluate (interpreter : Interpreter) (expression : String) :
    (interpreter.evaluate expression).outcome =
      (interpreter.steps .empty (spellOutDefault (Token.scan expression))).outcome.map
        Selection.suites := by
  rw [evaluate, Logged.outcome_bind, run]
  rcases (interpreter.steps .empty (spellOutDefault (Token.scan expression))).outcome with
    fault | final
  · rfl
  · rfl

theorem outcome_evaluate_of_reads {interpreter : Interpreter} {expression : String}
    {effects : List Effect}
    (h : interpreter.Reads (spellOutDefault (Token.scan expression)) effects) :
    (interpreter.evaluate expression).outcome =
      .ok (effects.foldl Selection.act .empty).suites := by
  rw [outcome_evaluate, outcome_steps_of_reads h]
  rfl

theorem outcome_evaluate_eq_ok_iff {interpreter : Interpreter} {expression : String}
    {suites : List Suite} :
    (interpreter.evaluate expression).outcome = .ok suites ↔
      (∀ token ∈ spellOutDefault (Token.scan expression), interpreter.understands token) ∧
        (interpreter.play .empty (spellOutDefault (Token.scan expression))).suites = suites := by
  rw [outcome_evaluate]
  constructor
  · intro h
    cases hsteps : (interpreter.steps .empty (spellOutDefault (Token.scan expression))).outcome with
    | error fault =>
        rw [hsteps] at h
        exact absurd h nofun
    | ok final =>
        rw [hsteps] at h
        obtain ⟨hunderstood, rfl⟩ := (interpreter.outcome_steps_eq_ok_iff _ _ _).mp hsteps
        exact ⟨hunderstood, Except.ok.inj h⟩
  · rintro ⟨hunderstood, rfl⟩
    rw [(interpreter.outcome_steps_eq_ok_iff _ _ _).mpr ⟨hunderstood, rfl⟩]
    rfl

/-- Three suites, of which one does not encrypt, and a name for a fourth outside the catalog: small
enough for what is said of all catalogs to be seen on it. -/
def sample : Interpreter where
  catalog := .ofLists
    [⟨"ecdhe_rsa", "aes_256_gcm", "aead", "sha384"⟩, ⟨"rsa", "aes_128_cbc", "sha", "default_prf"⟩,
      ⟨"rsa", "null", "sha", "default_prf"⟩]
    [⟨"ecdhe_rsa", "aes_256_gcm", "aead", "sha384"⟩]
    (.ofList [("NULL-MD5", ⟨"rsa", "null", "md5", "default_prf"⟩)])

end Interpreter

end CipherString
