import CipherString.Proofs.Denotation
import CipherString.Proofs.Membership

/-!
How far a banned or deleted combination of keywords reaches. It takes every suite of the catalog
that has the attributes, however it came in. What it cannot take is a suite outside the catalog,
which only its own name lets in, since keywords speak of the catalog and names need not.
-/

namespace CipherString

theorem mem_spellOutDefault {token : String} {tokens : List String} (h : token ∈ tokens)
    (hdefault : token ≠ defaultToken) : token ∈ spellOutDefault tokens := by
  cases tokens with
  | nil => exact h
  | cons first rest =>
      rw [spellOutDefault]
      split
      · next hfirst =>
          rcases List.mem_cons.mp h with rfl | hrest
          · exact absurd hfirst hdefault
          · exact List.mem_append_right _ hrest
      · exact h

theorem mem_or_mem_of_mem_spellOutDefault {token : String} {tokens : List String}
    (h : token ∈ spellOutDefault tokens) : token ∈ defaultExpansion ∨ token ∈ tokens := by
  cases tokens with
  | nil => exact Or.inr h
  | cons first rest =>
      rw [spellOutDefault] at h
      split at h
      · exact (List.mem_append.mp h).imp_right (List.mem_cons_of_mem first)
      · exact Or.inr h

theorem spellOutDefault_of_head {tokens : List String} (h : tokens.head? = some defaultToken) :
    spellOutDefault tokens = defaultExpansion ++ tokens.tail := by
  cases tokens with
  | nil => cases h
  | cons first rest => exact if_pos (Option.some.inj h)

theorem Catalog.meets_eNULL (c : Catalog) (s : Suite) : c.meets "eNULL" s = s.isNull := by
  have hpieces : Token.pieces "eNULL" = ["eNULL"] := by decide
  have hcriterion : Keyword.criterion? "eNULL" = some (.cipher [Suite.nullCipher]) := by decide
  rw [meets, hpieces, List.all_cons, List.all_nil, Bool.and_true, hcriterion, Option.any_some,
    Criterion.holds_cipher_null]

namespace Interpreter

/-- The suite lies outside the catalog, and one of the tokens is a name of it. -/
def NamesOutside (interpreter : Interpreter) (tokens : List String) (s : Suite) : Prop :=
  s ∉ interpreter.catalog.suites ∧ ∃ token ∈ tokens,
    Instruction.ofToken token = .modify .append token ∧
      interpreter.catalog.suiteNamed token = some s

variable {interpreter : Interpreter} {tokens : List String} {s : Suite}

theorem mem_targets_of_meets {modifier : Modifier} {token body : String}
    (hbody : Instruction.ofToken token = .modify modifier body)
    (hname : interpreter.catalog.suiteNamed body = none)
    (hunderstood : interpreter.understands token) (hs : s ∈ interpreter.catalog.suites)
    (hmeets : interpreter.catalog.meets body s) : s ∈ interpreter.targets modifier token := by
  rw [targets_of_ofToken hbody]
  cases hsuites : (interpreter.catalog.suitesOf interpreter.policy.unknownToken body).outcome with
  | error fault =>
      rw [understands, read, hbody] at hunderstood
      simp only [Logged.outcome_bind] at hunderstood
      rw [hsuites] at hunderstood
      cases hunderstood
  | ok suites =>
      rw [Catalog.suites_eq_filter_meets hname hsuites]
      exact List.mem_filter.mpr ⟨hs, hmeets⟩

/-- A suite outside the catalog comes in by its name, whatever else stands around it. -/
theorem namesOutside_of_keeps (hkeeps : interpreter.Keeps tokens s)
    (hs : s ∉ interpreter.catalog.suites) : interpreter.NamesOutside tokens s := by
  obtain ⟨before, token, after, rfl, happend, -⟩ := hkeeps
  refine ⟨hs, token, by simp, ?_⟩
  obtain ⟨body, suites, hbody, hsuites, htargets⟩ := exists_suitesOf_of_mem_targets happend
  obtain rfl := Instruction.eq_of_ofToken_append hbody
  refine ⟨hbody, ?_⟩
  rw [htargets] at happend
  cases hname : interpreter.catalog.suiteNamed body with
  | some named =>
      rw [Catalog.suitesOf_of_suiteNamed hname] at hsuites
      cases hsuites
      rw [List.mem_singleton.mp happend]
  | none =>
      rw [Catalog.suites_eq_filter_meets hname hsuites] at happend
      exact absurd (List.mem_filter.mp happend).1 hs

theorem namesOutside_of_ban {word : String} (hname : interpreter.catalog.suiteNamed word = none)
    (hunderstood : ∀ token ∈ tokens, interpreter.understands token) (hban : "!" ++ word ∈ tokens)
    (hmeets : interpreter.catalog.meets word s)
    (hs : s ∈ (interpreter.play .empty tokens).suites) : interpreter.NamesOutside tokens s := by
  obtain ⟨hbans, hkeeps⟩ := (interpreter.mem_suites_play_iff tokens s).mp hs
  refine namesOutside_of_keeps hkeeps fun hcatalog => ?_
  exact hbans _ hban (mem_targets_of_meets (Instruction.ofToken_ban word) hname
    (hunderstood _ hban) hcatalog hmeets)

theorem namesOutside_of_delete {word : String}
    (hname : interpreter.catalog.suiteNamed word = none)
    (hunderstood : interpreter.understands ("-" ++ word))
    (hmeets : interpreter.catalog.meets word s)
    (hs : s ∈ (interpreter.play .empty (tokens ++ ["-" ++ word])).chosen) :
    interpreter.NamesOutside tokens s := by
  obtain ⟨-, hkeeps⟩ := (interpreter.mem_chosen_play_iff _ s).mp hs
  obtain ⟨hin, hdelete⟩ := (interpreter.keeps_concat tokens _ s).mp hkeeps
  have hbody := Instruction.ofToken_delete word
  rcases hin with hkeeps | happend
  · refine namesOutside_of_keeps hkeeps fun hcatalog => hdelete ?_
    exact mem_targets_of_meets hbody hname hunderstood hcatalog hmeets
  · obtain ⟨body, hother⟩ := exists_ofToken_of_mem_targets happend
    rw [hbody] at hother
    cases hother

theorem namesOutside_of_ban_run {word : String} {final : Selection}
    (hname : interpreter.catalog.suiteNamed word = none)
    (hrun : (interpreter.run tokens).outcome = .ok final) (hban : "!" ++ word ∈ tokens)
    (hs : s ∈ final.suites) (hmeets : interpreter.catalog.meets word s) :
    interpreter.NamesOutside (spellOutDefault tokens) s := by
  obtain ⟨hunderstood, rfl⟩ := (interpreter.outcome_steps_eq_ok_iff _ _ _).mp hrun
  have hdefault : "!" ++ word ≠ defaultToken := by
    intro h
    have hbody := Instruction.ofToken_ban word
    rw [h] at hbody
    cases hbody
  exact namesOutside_of_ban hname hunderstood (mem_spellOutDefault hban hdefault) hmeets hs

theorem exists_steps_of_delete {word : String} {before after : List String} {final : Selection}
    (hname : interpreter.catalog.suiteNamed word = none)
    (hrun : (interpreter.run tokens).outcome = .ok final)
    (hsplit : spellOutDefault tokens = before ++ ("-" ++ word) :: after) :
    ∃ state, (interpreter.steps .empty (before ++ ["-" ++ word])).outcome = .ok state ∧
      ∀ s ∈ state.chosen, interpreter.catalog.meets word s →
        interpreter.NamesOutside before s := by
  obtain ⟨hunderstood, -⟩ := (interpreter.outcome_steps_eq_ok_iff _ _ _).mp hrun
  have hfront : ∀ token ∈ before ++ ["-" ++ word], interpreter.understands token := by
    intro token htoken
    refine hunderstood token ?_
    rw [hsplit, List.append_cons]
    exact List.mem_append_left after htoken
  refine ⟨_, (interpreter.outcome_steps_eq_ok_iff _ _ _).mpr ⟨hfront, rfl⟩, ?_⟩
  intro s hs hmeets
  exact namesOutside_of_delete hname (hfront _ (by simp)) hmeets hs

theorem namesOutside_of_isNull {expression : String} {suites : List Suite}
    (hname : interpreter.catalog.suiteNamed "eNULL" = none)
    (hevaluate : (interpreter.evaluate expression).outcome = .ok suites)
    (htoken : "!eNULL" ∈ Token.scan expression ∨
      (Token.scan expression).head? = some defaultToken)
    (hs : s ∈ suites) (hnull : s.isNull) :
    interpreter.NamesOutside (spellOutDefault (Token.scan expression)) s := by
  obtain ⟨hunderstood, rfl⟩ := outcome_evaluate_eq_ok_iff.mp hevaluate
  have hban : "!eNULL" ∈ spellOutDefault (Token.scan expression) := by
    rcases htoken with hmem | hhead
    · exact mem_spellOutDefault hmem (by decide)
    · rw [spellOutDefault_of_head hhead]
      exact List.mem_append_left _ (by decide)
  refine namesOutside_of_ban hname hunderstood hban ?_ hs
  rw [Catalog.meets_eNULL]
  exact hnull

/-- A banned or deleted combination of keywords leaves no suite of the catalog that has the
attributes: one that is in after it lies outside the catalog and was named. So with `eNULL` banned,
as it is by default, a suite that does not encrypt has to be named and from outside. -/
theorem namesOutside_of_meets (interpreter : Interpreter) :
    (∀ word, interpreter.catalog.suiteNamed word = none →
      ∀ tokens final, (interpreter.run tokens).outcome = .ok final →
        ("!" ++ word ∈ tokens → ∀ s ∈ final.suites, interpreter.catalog.meets word s →
          interpreter.NamesOutside (spellOutDefault tokens) s) ∧
        ∀ before after, spellOutDefault tokens = before ++ ("-" ++ word) :: after →
          ∃ state, (interpreter.steps .empty (before ++ ["-" ++ word])).outcome = .ok state ∧
            ∀ s ∈ state.chosen, interpreter.catalog.meets word s →
              interpreter.NamesOutside before s) ∧
    (interpreter.catalog.suiteNamed "eNULL" = none →
      ∀ expression suites, (interpreter.evaluate expression).outcome = .ok suites →
        "!eNULL" ∈ Token.scan expression ∨ (Token.scan expression).head? = some defaultToken →
          ∀ s ∈ suites, s.isNull →
            interpreter.NamesOutside (spellOutDefault (Token.scan expression)) s) := by
  constructor
  · intro word hname tokens final hrun
    constructor
    · intro hban s hs hmeets
      exact namesOutside_of_ban_run hname hrun hban hs hmeets
    · intro before after hsplit
      exact exists_steps_of_delete hname hrun hsplit
  · intro hname expression suites hevaluate htoken s hs hnull
    exact namesOutside_of_isNull hname hevaluate htoken hs hnull

theorem namesOutside_of_NULL_MD5 :
    sample.NamesOutside ["NULL-MD5", "ALL", "!kRSA+eNULL"]
        ⟨"rsa", "null", "md5", "default_prf"⟩ ∧
      (∃ state, (sample.steps .empty ["NULL-MD5", "ALL", "-kRSA"]).outcome = .ok state ∧
        ∀ s ∈ state.chosen, sample.catalog.meets "kRSA" s →
          sample.NamesOutside ["NULL-MD5", "ALL"] s) ∧
      sample.NamesOutside (spellOutDefault ["DEFAULT", "NULL-MD5"])
        ⟨"rsa", "null", "md5", "default_prf"⟩ := by
  obtain ⟨hwords, hnull⟩ := namesOutside_of_meets sample
  have hban : (sample.run ["NULL-MD5", "ALL", "!kRSA+eNULL"]).outcome =
      .ok (sample.play .empty ["NULL-MD5", "ALL", "!kRSA+eNULL"]) := rfl
  have hdelete : (sample.run ["NULL-MD5", "ALL", "-kRSA"]).outcome =
      .ok (sample.play .empty ["NULL-MD5", "ALL", "-kRSA"]) := rfl
  have hdefault : (sample.evaluate "DEFAULT:NULL-MD5").outcome =
      .ok [⟨"ecdhe_rsa", "aes_256_gcm", "aead", "sha384"⟩,
        ⟨"rsa", "null", "md5", "default_prf"⟩] := rfl
  refine ⟨?_, ?_, ?_⟩
  · exact (hwords "kRSA+eNULL" rfl _ _ hban).1 (by decide) _ (by decide) (by decide)
  · exact (hwords "kRSA" rfl _ _ hdelete).2 ["NULL-MD5", "ALL"] [] rfl
  · exact hnull rfl "DEFAULT:NULL-MD5" _ hdefault (Or.inr rfl) _ (by decide) (by decide)

/-- What a name lets in from outside the catalog stays, although the keyword is banned. -/
theorem exists_isNull_of_ban_eNULL :
    ∃ suites, sample.catalog.suiteNamed "eNULL" = none ∧
      (sample.evaluate "!eNULL:NULL-MD5").outcome = .ok suites ∧
        "!eNULL" ∈ Token.scan "!eNULL:NULL-MD5" ∧
          ∃ s ∈ suites, sample.catalog.meets "eNULL" s ∧ s.isNull := by
  refine ⟨[⟨"rsa", "null", "md5", "default_prf"⟩], rfl, rfl, by decide, ?_⟩
  exact ⟨_, List.mem_singleton_self _, by decide, by decide⟩

/-- Where every name stays within the catalog, a banned combination leaves nothing at all. -/
theorem not_meets_of_ban_run {word : String} {final : Selection}
    (hwithin : ∀ name named, interpreter.catalog.suiteNamed name = some named →
      named ∈ interpreter.catalog.suites)
    (hname : interpreter.catalog.suiteNamed word = none)
    (hrun : (interpreter.run tokens).outcome = .ok final) (hban : "!" ++ word ∈ tokens) :
    ∀ s ∈ final.suites, ¬ interpreter.catalog.meets word s := by
  intro s hs hmeets
  obtain ⟨hout, token, -, -, hnamed⟩ := namesOutside_of_ban_run hname hrun hban hs hmeets
  exact hout (hwithin token s hnamed)

end Interpreter

end CipherString
