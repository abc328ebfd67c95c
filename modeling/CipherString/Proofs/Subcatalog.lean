import CipherString.Proofs.Language
import CipherString.Proofs.Restriction

namespace CipherString

theorem exists_of_map_eq_map {ε α β : Type} {x y : Except ε α} {f : α → β}
    (h : x.map f = y.map f) :
    (∃ fault, x = .error fault ∧ y = .error fault) ∨
      ∃ a b, x = .ok a ∧ y = .ok b ∧ f a = f b := by
  rcases x with fault | a
  · rcases y with other | b
    · exact Or.inl ⟨fault, rfl, congrArg Except.error (Except.error.inj h).symm⟩
    · exact absurd h nofun
  · rcases y with other | b
    · exact absurd h nofun
    · exact Or.inr ⟨a, b, rfl, rfl, Except.ok.inj h⟩

/-- Of the default suites, a criterion asks only about the one it is applied to. -/
theorem Criterion.holds_filter {p : Suite → Bool} {s : Suite} (hs : p s) (defaults : List Suite)
    (criterion : Criterion) :
    criterion.holds (defaults.filter p) s = criterion.holds defaults s := by
  cases criterion with
  | beyondDefaults => simp [holds, hs]
  | _ => rfl

/-- The part of a catalog that satisfies `p`, under all the names. -/
def Catalog.restrict (p : Suite → Bool) (c : Catalog) : Catalog :=
  ⟨c.suites.filter p, c.defaults.filter p, c.names⟩

def Interpreter.restrict (p : Suite → Bool) (interpreter : Interpreter) : Interpreter :=
  { interpreter with catalog := interpreter.catalog.restrict p }

namespace Catalog

variable (p : Suite → Bool) (c : Catalog)

@[simp] theorem suiteNamed_restrict (body : String) :
    (c.restrict p).suiteNamed body = c.suiteNamed body := rfl

theorem matching_restrict (criteria : List Criterion) :
    (c.restrict p).matching criteria = (c.matching criteria).filter p := by
  refine (Selection.filter_filter_congr ?_ c.suites.toList).symm
  intro s hs
  apply congrArg criteria.all
  funext criterion
  exact (criterion.holds_filter hs c.defaults.toList).symm

theorem map_meaning_restrict (body : String) :
    ((c.restrict p).meaning body).map (·.filter p) = (c.meaning body).map (·.filter p) := by
  rw [meaning, meaning, suiteNamed_restrict]
  rcases c.suiteNamed body with _ | suite
  · rcases criteria (Token.pieces body) with part | criteria
    · rfl
    · apply congrArg Except.ok
      show ((c.restrict p).matching criteria).filter p = (c.matching criteria).filter p
      rw [matching_restrict, List.filter_filter]
      simp only [Bool.and_self]
  · rfl

theorem map_outcome_suitesOf_restrict (unknown : UnknownToken) (body : String) :
    ((c.restrict p).suitesOf unknown body).outcome.map (·.filter p) =
      (c.suitesOf unknown body).outcome.map (·.filter p) := by
  rw [suitesOf, suitesOf]
  rcases exists_of_map_eq_map (c.map_meaning_restrict p body) with
    ⟨part, hpart, hpart'⟩ | ⟨suites, others, hsuites, hothers, halike⟩
  · rw [hpart, hpart']
  · rw [hsuites, hothers]
    exact congrArg Except.ok halike

end Catalog

theorem Selection.filter_suites (p : Suite → Bool) (state : Selection) :
    state.suites.filter p = (state.restrict p).suites := by
  refine filter_filter_congr ?_ state.chosen
  intro s hs
  simp [hs]

namespace Interpreter

variable (p : Suite → Bool) (interpreter : Interpreter)

@[simp] theorem catalog_restrict :
    (interpreter.restrict p).catalog = interpreter.catalog.restrict p := rfl

@[simp] theorem policy_restrict : (interpreter.restrict p).policy = interpreter.policy := rfl

/-- A token has the same effect over the whole catalog and over its part, as far as the part goes,
and is refused over both or over neither. -/
theorem map_outcome_read_restrict (token : String) :
    ((interpreter.restrict p).read token).outcome.map (Effect.restrict p) =
      (interpreter.read token).outcome.map (Effect.restrict p) := by
  cases htoken : Instruction.ofToken token with
  | sortByStrength => rw [read, read, htoken]
  | securityLevel => rw [read, read, htoken]
  | unknownDirective => rw [read, read, htoken, policy_restrict]
  | modify modifier body =>
      rw [outcome_read_modify htoken, outcome_read_modify htoken, catalog_restrict,
        policy_restrict]
      rcases exists_of_map_eq_map (interpreter.catalog.map_outcome_suitesOf_restrict p
        interpreter.policy.unknownToken body) with
        ⟨fault, hfault, hfault'⟩ | ⟨suites, others, hsuites, hothers, halike⟩
      · rw [hfault, hfault']
      · rw [hsuites, hothers]
        exact congrArg (fun suites => Except.ok (Effect.modify modifier suites)) halike

theorem map_outcome_steps_restrict {state other : Selection}
    (h : other.restrict p = state.restrict p) (tokens : List String) :
    ((interpreter.restrict p).steps other tokens).outcome.map (Selection.restrict p) =
      (interpreter.steps state tokens).outcome.map (Selection.restrict p) := by
  -- The two selections may differ outside `p`, and stay equal on it.
  induction tokens generalizing state other with
  | nil => exact congrArg Except.ok h
  | cons token tokens ih =>
      rw [outcome_steps_cons, outcome_steps_cons]
      rcases exists_of_map_eq_map (interpreter.map_outcome_read_restrict p token) with
        ⟨fault, hfault, hfault'⟩ | ⟨effect, effect', heffect, heffect', halike⟩
      · rw [hfault, hfault']
        rfl
      · rw [heffect, heffect']
        apply ih
        rw [Selection.restrict_act, Selection.restrict_act, h, halike]

/-- Selecting from a catalog and from a part of it gives the same list of the suites in the part, or
fails over both, at the same token and piece. -/
theorem evaluate_restrict (expression : String) :
    (∃ token part,
      (interpreter.evaluate expression).outcome = .error (.unrecognized token part) ∧
        ((interpreter.restrict p).evaluate expression).outcome =
          .error (.unrecognized token part)) ∨
    ∃ suites others,
      (interpreter.evaluate expression).outcome = .ok suites ∧
        ((interpreter.restrict p).evaluate expression).outcome = .ok others ∧
          others.filter p = suites.filter p := by
  rcases exists_of_map_eq_map (interpreter.map_outcome_steps_restrict p
    (rfl : Selection.empty.restrict p = Selection.empty.restrict p)
    (spellOutDefault (Token.scan expression))) with
    ⟨fault, hrestricted, hwhole⟩ | ⟨other, state, hrestricted, hwhole, halike⟩
  · left
    have hfault : (interpreter.evaluate expression).outcome = .error fault := by
      rw [outcome_evaluate, hwhole]
      rfl
    obtain ⟨token, part, rfl⟩ := eq_unrecognized_of_outcome_evaluate hfault
    refine ⟨token, part, hfault, ?_⟩
    rw [outcome_evaluate, hrestricted]
    rfl
  · right
    refine ⟨state.suites, other.suites, ?_, ?_, ?_⟩
    · rw [outcome_evaluate, hwhole]
      rfl
    · rw [outcome_evaluate, hrestricted]
      rfl
    · rw [Selection.filter_suites, Selection.filter_suites, halike]

/-- The part of the sample with one key exchange lacks its first suite, and still has the suite from
outside. -/
theorem evaluate_restrict_of_sample :
    ((sample.evaluate "NULL-MD5:eNULL:ALL:+eNULL").outcome =
        .ok [⟨"rsa", "null", "md5", "default_prf"⟩, ⟨"ecdhe_rsa", "aes_256_gcm", "aead", "sha384"⟩,
          ⟨"rsa", "aes_128_cbc", "sha", "default_prf"⟩, ⟨"rsa", "null", "sha", "default_prf"⟩] ∧
      ∃ others,
        ((sample.restrict (·.keyExchange == "rsa")).evaluate "NULL-MD5:eNULL:ALL:+eNULL").outcome =
          .ok others ∧
        others.filter (·.keyExchange == "rsa") =
          [⟨"rsa", "null", "md5", "default_prf"⟩, ⟨"rsa", "aes_128_cbc", "sha", "default_prf"⟩,
            ⟨"rsa", "null", "sha", "default_prf"⟩] ∧
        others.length = 3) ∧
    (sample.evaluate "ALL:kRSA+TYPO").outcome = .error (.unrecognized "kRSA+TYPO" "TYPO") ∧
    ((sample.restrict (·.keyExchange == "rsa")).evaluate "ALL:kRSA+TYPO").outcome =
      .error (.unrecognized "kRSA+TYPO" "TYPO") := by
  have hselected : (sample.evaluate "NULL-MD5:eNULL:ALL:+eNULL").outcome =
      .ok [⟨"rsa", "null", "md5", "default_prf"⟩, ⟨"ecdhe_rsa", "aes_256_gcm", "aead", "sha384"⟩,
        ⟨"rsa", "aes_128_cbc", "sha", "default_prf"⟩, ⟨"rsa", "null", "sha", "default_prf"⟩] := rfl
  have hfailed : (sample.evaluate "ALL:kRSA+TYPO").outcome =
      .error (.unrecognized "kRSA+TYPO" "TYPO") := rfl
  refine ⟨⟨hselected, ?_⟩, hfailed, ?_⟩
  · rcases evaluate_restrict (·.keyExchange == "rsa") sample "NULL-MD5:eNULL:ALL:+eNULL" with
      ⟨token, part, h, -⟩ | ⟨suites, others, h, hothers, hsame⟩
    · cases hselected.symm.trans h
    · cases hselected.symm.trans h
      refine ⟨others, hothers, hsame, ?_⟩
      obtain rfl := Except.ok.inj hothers
      rfl
  · rcases evaluate_restrict (·.keyExchange == "rsa") sample "ALL:kRSA+TYPO" with
      ⟨token, part, h, hpart⟩ | ⟨suites, others, h, -⟩
    · cases hfailed.symm.trans h
      exact hpart
    · cases hfailed.symm.trans h

end Interpreter

end CipherString
