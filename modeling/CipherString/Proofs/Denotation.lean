import CipherString.Proofs.Effect

namespace CipherString

theorem Criterion.holds_cipher_null (defaults : List Suite) (s : Suite) :
    (Criterion.cipher [Suite.nullCipher]).holds defaults s = s.isNull := by
  rw [holds, List.contains_cons, List.contains_nil, Bool.or_false, Suite.isNull]

namespace Catalog

/-- Whether a suite meets the criteria of all pieces of a word, of which each has to be a keyword. -/
def meets (c : Catalog) (word : String) (s : Suite) : Bool :=
  (Token.pieces word).all fun piece =>
    (Keyword.criterion? piece).any (·.holds c.defaults.toList s)

theorem all_holds_of_criteria_eq_ok {pieces : List String} {criteria : List Criterion}
    (h : Catalog.criteria pieces = .ok criteria) (defaults : List Suite) (s : Suite) :
    (criteria.all (·.holds defaults s)) =
      pieces.all fun piece => (Keyword.criterion? piece).any (·.holds defaults s) := by
  induction pieces generalizing criteria with
  | nil =>
      cases h
      rfl
  | cons piece pieces ih =>
      rw [Catalog.criteria] at h
      cases hpiece : Keyword.criterion? piece with
      | none =>
          rw [hpiece] at h
          cases h
      | some criterion =>
          rw [hpiece] at h
          cases hpieces : Catalog.criteria pieces with
          | error part =>
              rw [hpieces] at h
              cases h
          | ok rest =>
              rw [hpieces] at h
              cases h
              rw [List.all_cons, List.all_cons, ih hpieces, hpiece, Option.any_some]

theorem all_any_eq_false_of_criteria_eq_error {pieces : List String} {part : String}
    (h : criteria pieces = .error part) (defaults : List Suite) (s : Suite) :
    (pieces.all fun piece => (Keyword.criterion? piece).any (·.holds defaults s)) = false := by
  induction pieces with
  | nil => cases h
  | cons piece pieces ih =>
      rw [criteria] at h
      cases hpiece : Keyword.criterion? piece with
      | none => rw [List.all_cons, hpiece, Option.any_none, Bool.false_and]
      | some criterion =>
          rw [hpiece] at h
          cases hpieces : criteria pieces with
          | ok rest =>
              rw [hpieces] at h
              cases h
          | error other =>
              rw [hpieces] at h
              cases h
              rw [List.all_cons, ih hpieces, Bool.and_false]

theorem suitesOf_of_suiteNamed {c : Catalog} {body : String} {suite : Suite}
    (hname : c.suiteNamed body = some suite) (unknown : UnknownToken) :
    c.suitesOf unknown body = pure [suite] := by
  rw [suitesOf, meaning, hname]

theorem suites_eq_filter_meets {c : Catalog} {unknown : UnknownToken} {body : String}
    {suites : List Suite} (hname : c.suiteNamed body = none)
    (h : (c.suitesOf unknown body).outcome = .ok suites) :
    suites = c.suites.toList.filter (c.meets body) := by
  rw [suitesOf, meaning, hname] at h
  cases hcriteria : criteria (Token.pieces body) with
  | ok criteria =>
      rw [hcriteria] at h
      cases h
      refine List.filter_congr fun s _ => ?_
      exact all_holds_of_criteria_eq_ok hcriteria c.defaults.toList s
  | error part =>
      have hnone : c.suites.toList.filter (c.meets body) = [] := by
        rw [List.filter_eq_nil_iff]
        intro s _
        rw [meets, all_any_eq_false_of_criteria_eq_error hcriteria]
        exact Bool.false_ne_true
      rw [hcriteria] at h
      cases unknown with
      | strict => cases h
      | empty =>
          cases h
          exact hnone.symm

end Catalog

namespace Interpreter

theorem targets_of_ofToken {interpreter : Interpreter} {token body : String} {modifier : Modifier}
    (h : Instruction.ofToken token = .modify modifier body) :
    interpreter.targets modifier token =
      (interpreter.catalog.suitesOf interpreter.policy.unknownToken body).outcome.toOption.getD
        [] := by
  rw [targets, h]
  exact if_pos rfl

theorem exists_suitesOf_of_mem_targets {interpreter : Interpreter} {token : String}
    {modifier : Modifier} {s : Suite} (h : s ∈ interpreter.targets modifier token) :
    ∃ body suites, Instruction.ofToken token = .modify modifier body ∧
      (interpreter.catalog.suitesOf interpreter.policy.unknownToken body).outcome = .ok suites ∧
        interpreter.targets modifier token = suites := by
  obtain ⟨body, hbody⟩ := exists_ofToken_of_mem_targets h
  rw [targets_of_ofToken hbody] at h ⊢
  cases hsuites : (interpreter.catalog.suitesOf interpreter.policy.unknownToken body).outcome with
  | error fault =>
      rw [hsuites] at h
      exact absurd h List.not_mem_nil
  | ok suites => exact ⟨body, suites, hbody, hsuites, rfl⟩

theorem effect_eq_of_mem_targets {interpreter : Interpreter} {modifier : Modifier}
    {token : String} {s : Suite}
    (h : s ∈ interpreter.targets modifier token) :
    interpreter.effect token = .modify modifier (interpreter.targets modifier token) := by
  obtain ⟨body, hbody⟩ := exists_ofToken_of_mem_targets h
  refine (interpreter.effect_of_ofToken hbody).resolve_right fun hidle => ?_
  rw [← targets_effect, hidle] at h
  exact absurd h List.not_mem_nil

/-- What a token treats is the suite of a name, or part of the catalog in its order. -/
theorem targets_cases (interpreter : Interpreter) (modifier : Modifier) (token : String) :
    (∃ body s, Instruction.ofToken token = .modify modifier body ∧
        interpreter.catalog.suiteNamed body = some s ∧
          interpreter.targets modifier token = [s]) ∨
      ∃ p : Suite → Bool,
        interpreter.targets modifier token = interpreter.catalog.suites.toList.filter p := by
  rcases List.eq_nil_or_concat (interpreter.targets modifier token) with hnil | ⟨front, last, hlast⟩
  · exact Or.inr ⟨fun _ => false, by simp [hnil]⟩
  · have hmem : last ∈ interpreter.targets modifier token := by simp [hlast]
    obtain ⟨body, suites, hbody, hsuites, htargets⟩ := exists_suitesOf_of_mem_targets hmem
    cases hname : interpreter.catalog.suiteNamed body with
    | some s =>
        rw [Catalog.suitesOf_of_suiteNamed hname] at hsuites
        cases hsuites
        exact Or.inl ⟨body, s, hbody, hname, htargets⟩
    | none =>
        rw [htargets, Catalog.suites_eq_filter_meets hname hsuites]
        exact Or.inr ⟨_, rfl⟩

theorem nodup_targets (interpreter : Interpreter) (modifier : Modifier) (token : String) :
    (interpreter.targets modifier token).Nodup := by
  rcases interpreter.targets_cases modifier token with ⟨-, s, -, -, htargets⟩ | ⟨p, htargets⟩
  · rw [htargets]
    exact List.nodup_cons.mpr ⟨List.not_mem_nil, List.nodup_nil⟩
  · rw [htargets]
    exact interpreter.catalog.suites.nodup.filter p

end Interpreter

end CipherString
