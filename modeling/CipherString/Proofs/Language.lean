import CipherString.Proofs.Effect
import CipherString.Proofs.Naming

namespace CipherString

namespace Keyword

theorem mem_known_iff {word : String} :
    word ∈ known ↔
      word ∈ table.map Prod.fst ∨ word ∈ aliases.map Prod.fst ∨ word ∈ unsupported := by
  rw [known, Text.mem_sorted, Distinct.toList_ofList, Distinct.mem_firsts, List.mem_append,
    List.mem_append, or_assoc]

theorem isSome_lookup_of_mem_aliases :
    ∀ entry ∈ aliases, (table.lookup entry.2).isSome := by
  decide

/-- The known words are those that stand for a criterion: no other word leads to one, and every word
for another keyword leads to one that is there. -/
theorem isSome_criterion?_iff {word : String} : (criterion? word).isSome ↔ word ∈ known := by
  rw [mem_known_iff, criterion?]
  by_cases hunsupported : word ∈ unsupported
  · simp [hunsupported]
  · rw [if_neg hunsupported]
    cases halias : aliases.lookup word with
    | some keyword =>
        have hmem : (word, keyword) ∈ aliases := mem_of_lookup_eq_some halias
        have hword : word ∈ aliases.map Prod.fst := List.mem_map_of_mem hmem
        exact iff_of_true (isSome_lookup_of_mem_aliases _ hmem) (Or.inr (Or.inl hword))
    | none =>
        have hword : word ∉ aliases.map Prod.fst := by
          rw [← isSome_lookup_iff, halias]
          exact Bool.false_ne_true
        rw [Option.getD_none, isSome_lookup_iff]
        simp only [hword, hunsupported, or_false]

end Keyword

namespace Token

def isDirective (token : String) : Bool :=
  token.toList.head? == some '@'

def modifiers : List Char := ['!', '-', '+']

/-- A token without the modifier in front of it, if it has one. -/
def body (token : String) : String :=
  match token.toList with
  | [] => token
  | c :: rest => if c ∈ modifiers then String.ofList rest else token

theorem body_of_mem_modifiers {token : String} {c : Char} {rest : List Char}
    (htoken : token.toList = c :: rest) (hc : c ∈ modifiers) : body token = String.ofList rest := by
  rw [body, htoken]
  exact if_pos hc

end Token

theorem Instruction.exists_ofToken_eq_modify {token : String}
    (h : Token.isDirective token = false) :
    ∃ modifier, ofToken token = .modify modifier (Token.body token) := by
  rw [ofToken]
  split
  · next htoken => simp [Token.isDirective, htoken] at h
  · next htoken =>
      rw [Token.body_of_mem_modifiers htoken (by decide)]
      exact ⟨.ban, rfl⟩
  · next htoken =>
      rw [Token.body_of_mem_modifiers htoken (by decide)]
      exact ⟨.delete, rfl⟩
  · next htoken =>
      rw [Token.body_of_mem_modifiers htoken (by decide)]
      exact ⟨.moveToEnd, rfl⟩
  · next hban hdelete hmove =>
      refine ⟨.append, ?_⟩
      rw [Token.body]
      split
      · rfl
      · next c rest htoken =>
          have hc : c ∉ Token.modifiers := by
            simp only [Token.modifiers, List.mem_cons, List.not_mem_nil, or_false]
            rintro (rfl | rfl | rfl)
            · exact hban rest htoken
            · exact hdelete rest htoken
            · exact hmove rest htoken
          rw [if_neg hc]

/-- A token that begins with none of the characters that ask for something else asks to append. -/
theorem Instruction.ofToken_eq_append {token : String}
    (h : ∀ c ∈ token.toList.head?, c ∉ '@' :: Token.modifiers) :
    ofToken token = .modify .append token := by
  rw [ofToken]
  split
  · next htoken => exact absurd (h '@' (by simp [htoken])) (by decide)
  · next htoken => exact absurd (h '!' (by simp [htoken])) (by decide)
  · next htoken => exact absurd (h '-' (by simp [htoken])) (by decide)
  · next htoken => exact absurd (h '+' (by simp [htoken])) (by decide)
  · rfl

theorem Instruction.ofToken_of_isDirective {token : String} (h : Token.isDirective token) :
    ofToken token =
      if token = sortDirective then .sortByStrength
      else if levelDirective.toList.isPrefixOf token.toList then .securityLevel
      else .unknownDirective := by
  obtain ⟨rest, htoken⟩ := List.head?_eq_some_iff.mp (eq_of_beq h)
  rw [ofToken]
  simp only [htoken]

namespace Catalog

/-- Whether a token belongs to the language, given the names of the catalog. -/
def recognizes (c : Catalog) (token : String) : Bool :=
  if Token.isDirective token then
    token = Instruction.sortDirective ||
      Instruction.levelDirective.toList.isPrefixOf token.toList
  else
    Token.body token ∈ c.names.names ||
      (Token.pieces (Token.body token)).all (· ∈ Keyword.known)

variable {c : Catalog} {body part token : String} {pieces : List String}

theorem suiteNamed_eq_none_iff : c.suiteNamed body = none ↔ body ∉ c.names.names := by
  rw [← Option.not_isSome_iff_eq_none, suiteNamed, NameTable.isSome_suiteNamed_iff]

theorem criteria_eq_error_iff :
    criteria pieces = .error part ↔ pieces.find? (· ∉ Keyword.known) = some part := by
  induction pieces with
  | nil => simp [criteria]
  | cons piece pieces ih =>
      rw [criteria]
      cases hpiece : Keyword.criterion? piece with
      | none =>
          have hunknown : piece ∉ Keyword.known := by
            rw [← Keyword.isSome_criterion?_iff, hpiece]
            exact Bool.false_ne_true
          rw [List.find?_cons_of_pos (by simpa using hunknown), Option.some_inj]
          exact iff_of_eq (Except.error.injEq piece part)
      | some criterion =>
          have hknown : piece ∈ Keyword.known := by
            rw [← Keyword.isSome_criterion?_iff, hpiece]
            rfl
          rw [List.find?_cons_of_neg (by simpa using hknown), ← ih]
          rcases criteria pieces with other | rest
          · exact Iff.rfl
          · exact iff_of_false nofun nofun

theorem meaning_eq_error_iff :
    c.meaning body = .error part ↔
      body ∉ c.names.names ∧
        (Token.pieces body).find? (· ∉ Keyword.known) = some part := by
  rw [← suiteNamed_eq_none_iff, ← criteria_eq_error_iff, meaning]
  rcases c.suiteNamed body with _ | suite
  · rcases criteria (Token.pieces body) with other | rest
    · simp [Except.map]
    · simp [Except.map]
  · simp

/-- A name, or a combination of known keywords, has a meaning, possibly of no suites. -/
theorem exists_meaning_of_denotes
    (h : body ∈ c.names.names ∨ ∀ piece ∈ Token.pieces body, piece ∈ Keyword.known) :
    ∃ suites, c.meaning body = .ok suites := by
  cases hmeaning : c.meaning body with
  | ok suites => exact ⟨suites, rfl⟩
  | error part =>
      obtain ⟨hname, hpart⟩ := meaning_eq_error_iff.mp hmeaning
      have hknown := h.resolve_left hname part (List.mem_of_find?_eq_some hpart)
      have hunknown := List.find?_some hpart
      rw [decide_eq_true_eq] at hunknown
      exact absurd hknown hunknown

theorem exists_meaning_eq_ok (hdirective : Token.isDirective token = false)
    (h : c.recognizes token) : ∃ suites, c.meaning (Token.body token) = .ok suites := by
  rw [recognizes, if_neg (by simp [hdirective])] at h
  apply exists_meaning_of_denotes
  simpa using h

theorem exists_meaning_eq_error (hdirective : Token.isDirective token = false)
    (h : c.recognizes token = false) :
    ∃ part, (Token.pieces (Token.body token)).find? (· ∉ Keyword.known) = some part ∧
      c.meaning (Token.body token) = .error part := by
  rw [recognizes, if_neg (by simp [hdirective]), Bool.or_eq_false_iff,
    decide_eq_false_iff_not, List.all_eq_false] at h
  obtain ⟨hname, piece, hpiece, hunknown⟩ := h
  have hsome : ((Token.pieces (Token.body token)).find? (· ∉ Keyword.known)).isSome := by
    rw [List.find?_isSome]
    exact ⟨piece, hpiece, by simpa using hunknown⟩
  obtain ⟨part, hpart⟩ := Option.isSome_iff_exists.mp hsome
  exact ⟨part, hpart, meaning_eq_error_iff.mpr ⟨hname, hpart⟩⟩

theorem outcome_suitesOf_strict :
    (c.suitesOf .strict body).outcome = (c.meaning body).mapError (.unrecognized body ·) := by
  rw [suitesOf]
  rcases c.meaning body with other | suites
  · rfl
  · rfl

theorem outcome_suitesOf_empty :
    (c.suitesOf .empty body).outcome = .ok ((c.meaning body).toOption.getD []) := by
  rw [suitesOf]
  rcases c.meaning body with other | suites
  · rfl
  · rfl

theorem outcome_suitesOf_of_meaning {unknown : UnknownToken} {suites : List Suite}
    (h : c.meaning body = .ok suites) : (c.suitesOf unknown body).outcome = .ok suites := by
  rw [suitesOf, h]
  rfl

end Catalog

namespace Interpreter

variable {interpreter : Interpreter} {state : Selection} {token part : String}
  {tokens : List String} {fault : Fault}

theorem outcome_read_of_meaning {body : String} {modifier : Modifier} {suites : List Suite}
    (htoken : Instruction.ofToken token = .modify modifier body)
    (hmeaning : interpreter.catalog.meaning body = .ok suites) :
    (interpreter.read token).outcome = .ok (.modify modifier suites) :=
  outcome_read_of_suitesOf htoken (Catalog.outcome_suitesOf_of_meaning hmeaning)

theorem outcome_read_directive (h : Token.isDirective token) :
    (interpreter.read token).outcome =
      if token = Instruction.sortDirective then .ok .sort
      else if Instruction.levelDirective.toList.isPrefixOf token.toList ∨
          interpreter.policy.unknownToken = .empty then .ok .idle
      else .error (.unrecognized token token) := by
  rw [read, Instruction.ofToken_of_isDirective h]
  by_cases hsort : token = Instruction.sortDirective
  · rw [if_pos hsort, if_pos hsort]
    rfl
  · rw [if_neg hsort, if_neg hsort]
    by_cases hlevel : Instruction.levelDirective.toList.isPrefixOf token.toList
    · rw [if_pos hlevel, if_pos (Or.inl hlevel)]
      rfl
    · rw [if_neg hlevel]
      cases interpreter.policy.unknownToken with
      | strict => simp [hlevel]
      | empty =>
          rw [if_pos (Or.inr rfl)]
          rfl

/-- Under the policy that passes over what it does not know, every token can be applied. -/
theorem understands_of_empty (hpolicy : interpreter.policy.unknownToken = .empty)
    (token : String) : interpreter.understands token := by
  cases hdirective : Token.isDirective token with
  | true =>
      rw [understands, outcome_read_directive hdirective, hpolicy]
      split
      · rfl
      · rw [if_pos (Or.inr rfl)]
        rfl
  | false =>
      obtain ⟨modifier, htoken⟩ := Instruction.exists_ofToken_eq_modify hdirective
      rw [understands, outcome_read_modify htoken, hpolicy, Catalog.outcome_suitesOf_empty]
      rfl

theorem outcome_read_of_isDirective (hpolicy : interpreter.policy.unknownToken = .strict)
    (hdirective : Token.isDirective token) (h : interpreter.catalog.recognizes token = false) :
    (interpreter.read token).outcome = .error (.unrecognized token token) := by
  rw [Catalog.recognizes, if_pos hdirective, Bool.or_eq_false_iff, decide_eq_false_iff_not] at h
  obtain ⟨hsort, hlevel⟩ := h
  rw [outcome_read_directive hdirective, if_neg hsort, if_neg]
  simp [hlevel, hpolicy]

theorem exists_outcome_read_eq_error (hpolicy : interpreter.policy.unknownToken = .strict)
    (hdirective : Token.isDirective token = false)
    (h : interpreter.catalog.recognizes token = false) :
    ∃ part, (Token.pieces (Token.body token)).find? (· ∉ Keyword.known) = some part ∧
      (interpreter.read token).outcome = .error (.unrecognized (Token.body token) part) := by
  obtain ⟨part, hpart, hmeaning⟩ := Catalog.exists_meaning_eq_error hdirective h
  obtain ⟨modifier, htoken⟩ := Instruction.exists_ofToken_eq_modify hdirective
  refine ⟨part, hpart, ?_⟩
  rw [outcome_read_modify htoken, hpolicy, Catalog.outcome_suitesOf_strict, hmeaning]
  rfl

theorem understands_of_recognizes (h : interpreter.catalog.recognizes token) :
    interpreter.understands token := by
  cases hdirective : Token.isDirective token with
  | true =>
      rw [Catalog.recognizes, if_pos hdirective, Bool.or_eq_true, decide_eq_true_eq] at h
      rw [understands, outcome_read_directive hdirective]
      rcases h with hsort | hlevel
      · rw [if_pos hsort]
        rfl
      · rw [if_pos (Or.inl hlevel)]
        split
        · rfl
        · rfl
  | false =>
      obtain ⟨modifier, htoken⟩ := Instruction.exists_ofToken_eq_modify hdirective
      obtain ⟨suites, hmeaning⟩ := Catalog.exists_meaning_eq_ok hdirective h
      exact understands_of_outcome_read (outcome_read_of_meaning htoken hmeaning)

theorem understands_eq_recognizes (hpolicy : interpreter.policy.unknownToken = .strict) :
    interpreter.understands = interpreter.catalog.recognizes := by
  funext token
  cases h : interpreter.catalog.recognizes token with
  | true => exact understands_of_recognizes h
  | false =>
      cases hdirective : Token.isDirective token with
      | true =>
          exact understands_of_outcome_read_error (outcome_read_of_isDirective hpolicy hdirective h)
      | false =>
          obtain ⟨part, -, hread⟩ := exists_outcome_read_eq_error hpolicy hdirective h
          exact understands_of_outcome_read_error hread

/-- A run stops at the first token that is not understood, with the fault of that token. -/
theorem outcome_steps_of_find? (hfind : tokens.find? (!interpreter.understands ·) = some token)
    (hread : (interpreter.read token).outcome = .error fault) :
    (interpreter.steps state tokens).outcome = .error fault := by
  induction tokens generalizing state with
  | nil => exact absurd hfind nofun
  | cons first tokens ih =>
      rw [outcome_steps_cons]
      cases hfirst : (interpreter.read first).outcome with
      | error other =>
          have hnot := understands_of_outcome_read_error hfirst
          rw [List.find?_cons_of_pos (by simp [hnot])] at hfind
          obtain rfl := Option.some.inj hfind
          obtain rfl := Except.error.inj (hfirst.symm.trans hread)
          rfl
      | ok effect =>
          have hunderstood := understands_of_outcome_read hfirst
          rw [List.find?_cons_of_neg (by simp [hunderstood])] at hfind
          exact ih hfind

section Evaluate

variable {expression : String}

theorem outcome_evaluate_of_find?
    (hfind : (spellOutDefault (Token.scan expression)).find? (!interpreter.understands ·) =
      some token)
    (hread : (interpreter.read token).outcome = .error fault) :
    (interpreter.evaluate expression).outcome = .error fault := by
  rw [outcome_evaluate, outcome_steps_of_find? hfind hread]
  rfl

theorem exists_outcome_evaluate_eq_ok
    (h : ∀ token ∈ spellOutDefault (Token.scan expression), interpreter.understands token) :
    ∃ suites, (interpreter.evaluate expression).outcome = .ok suites :=
  ⟨_, outcome_evaluate_eq_ok_iff.mpr ⟨h, rfl⟩⟩

theorem outcome_evaluate_of_not_recognizes (hpolicy : interpreter.policy.unknownToken = .strict)
    (hfind : (spellOutDefault (Token.scan expression)).find?
      (!interpreter.catalog.recognizes ·) = some token) :
    (Token.isDirective token →
      (interpreter.evaluate expression).outcome = .error (.unrecognized token token)) ∧
    (Token.isDirective token = false →
      ∃ part, (Token.pieces (Token.body token)).find? (· ∉ Keyword.known) = some part ∧
        (interpreter.evaluate expression).outcome =
          .error (.unrecognized (Token.body token) part)) := by
  have hrefused : interpreter.catalog.recognizes token = false := by
    simpa using List.find?_some hfind
  rw [← understands_eq_recognizes hpolicy] at hfind
  constructor
  · intro hdirective
    apply outcome_evaluate_of_find? hfind
    exact outcome_read_of_isDirective hpolicy hdirective hrefused
  · intro hdirective
    obtain ⟨part, hpart, hread⟩ := exists_outcome_read_eq_error hpolicy hdirective hrefused
    exact ⟨part, hpart, outcome_evaluate_of_find? hfind hread⟩

theorem exists_outcome_evaluate_eq_unrecognized
    (hpolicy : interpreter.policy.unknownToken = .strict)
    (htoken : token ∈ spellOutDefault (Token.scan expression))
    (hrefused : interpreter.catalog.recognizes token = false) :
    ∃ text part, (interpreter.evaluate expression).outcome = .error (.unrecognized text part) := by
  have hsome : ((spellOutDefault (Token.scan expression)).find?
      (!interpreter.catalog.recognizes ·)).isSome := by
    rw [List.find?_isSome]
    exact ⟨token, htoken, by rw [hrefused]; rfl⟩
  obtain ⟨first, hfind⟩ := Option.isSome_iff_exists.mp hsome
  obtain ⟨hwhole, hpart⟩ := outcome_evaluate_of_not_recognizes hpolicy hfind
  cases hdirective : Token.isDirective first with
  | true => exact ⟨first, first, hwhole hdirective⟩
  | false =>
      obtain ⟨part, -, hfault⟩ := hpart hdirective
      exact ⟨_, part, hfault⟩

theorem exists_outcome_evaluate_eq_error_iff
    (hpolicy : interpreter.policy.unknownToken = .strict) :
    (∃ fault, (interpreter.evaluate expression).outcome = .error fault) ↔
      ∃ token ∈ spellOutDefault (Token.scan expression),
        interpreter.catalog.recognizes token = false := by
  constructor
  · rintro ⟨fault, hfault⟩
    cases hfind : (spellOutDefault (Token.scan expression)).find?
        (!interpreter.catalog.recognizes ·) with
    | some token =>
        exact ⟨token, List.mem_of_find?_eq_some hfind, by simpa using List.find?_some hfind⟩
    | none =>
        rw [List.find?_eq_none] at hfind
        obtain ⟨suites, hsuites⟩ := exists_outcome_evaluate_eq_ok fun token htoken =>
          understands_of_recognizes (by simpa using hfind token htoken)
        rw [hsuites] at hfault
        exact absurd hfault nofun
  · rintro ⟨token, htoken, hrefused⟩
    obtain ⟨text, part, hfault⟩ :=
      exists_outcome_evaluate_eq_unrecognized hpolicy htoken hrefused
    exact ⟨_, hfault⟩

/-- An expression fails for no other cause than a token outside the language. -/
theorem eq_unrecognized_of_outcome_evaluate
    (h : (interpreter.evaluate expression).outcome = .error fault) :
    ∃ text part, fault = .unrecognized text part := by
  cases hpolicy : interpreter.policy.unknownToken with
  | empty =>
      obtain ⟨suites, hsuites⟩ := exists_outcome_evaluate_eq_ok fun token
        (_ : token ∈ spellOutDefault (Token.scan expression)) => understands_of_empty hpolicy token
      rw [hsuites] at h
      exact absurd h nofun
  | strict =>
      obtain ⟨token, htoken, hrefused⟩ :=
        (exists_outcome_evaluate_eq_error_iff hpolicy).mp ⟨fault, h⟩
      obtain ⟨text, part, hfault⟩ :=
        exists_outcome_evaluate_eq_unrecognized hpolicy htoken hrefused
      rw [h] at hfault
      exact ⟨text, part, Except.error.inj hfault⟩

end Evaluate

/-- Under the strict policy exactly the expressions outside the language fail, at their first token
outside it: a directive is reported whole, and any other token by what follows its modifier and the
first piece of that which is no keyword. Under the other policy no expression fails. -/
theorem evaluate_accepts_iff (interpreter : Interpreter) (expression : String) :
    (interpreter.policy.unknownToken = .strict →
      ((∃ fault, (interpreter.evaluate expression).outcome = .error fault) ↔
        ∃ token ∈ spellOutDefault (Token.scan expression),
          interpreter.catalog.recognizes token = false) ∧
      ∀ token, (spellOutDefault (Token.scan expression)).find?
          (!interpreter.catalog.recognizes ·) = some token →
        (Token.isDirective token →
          (interpreter.evaluate expression).outcome = .error (.unrecognized token token)) ∧
        (Token.isDirective token = false →
          ∃ part, (Token.pieces (Token.body token)).find? (· ∉ Keyword.known) = some part ∧
            (interpreter.evaluate expression).outcome =
              .error (.unrecognized (Token.body token) part))) ∧
    (interpreter.policy.unknownToken = .empty →
      ∃ suites, (interpreter.evaluate expression).outcome = .ok suites) := by
  constructor
  · intro hpolicy
    refine ⟨exists_outcome_evaluate_eq_error_iff hpolicy, ?_⟩
    intro token hfind
    exact outcome_evaluate_of_not_recognizes hpolicy hfind
  · intro hpolicy
    exact exists_outcome_evaluate_eq_ok fun token _ => understands_of_empty hpolicy token

/-- Where a token outside the language is followed by another, the first one is reported. -/
theorem evaluate_refuses_TYPO :
    ((sample.evaluate "NULL-MD5 !kRSA+TYPO+WORSE,@NOPE").outcome =
        .error (.unrecognized "kRSA+TYPO+WORSE" "TYPO") ∧
      (Token.pieces "kRSA+TYPO+WORSE").find? (· ∉ Keyword.known) = some "TYPO") ∧
    (sample.evaluate "ALL:@SECLEVEL=2:@NOPE:TYPO").outcome =
      .error (.unrecognized "@NOPE" "@NOPE") ∧
    ∃ suites, ({ sample with policy := ⟨.empty, .builtin⟩ }.evaluate "@NOPE:TYPO").outcome =
      .ok suites := by
  have hlanguage : sample.understands = sample.catalog.recognizes := understands_eq_recognizes rfl
  refine ⟨?_, ?_, (evaluate_accepts_iff _ _).2 rfl⟩
  · have hfind : (spellOutDefault (Token.scan "NULL-MD5 !kRSA+TYPO+WORSE,@NOPE")).find?
        (!sample.catalog.recognizes ·) = some "!kRSA+TYPO+WORSE" := by
      rw [← hlanguage]
      rfl
    obtain ⟨part, hpart, hfault⟩ :=
      (((evaluate_accepts_iff sample _).1 rfl).2 _ hfind).2 (by decide)
    have hrun : (sample.evaluate "NULL-MD5 !kRSA+TYPO+WORSE,@NOPE").outcome =
        .error (.unrecognized "kRSA+TYPO+WORSE" "TYPO") := rfl
    rw [hrun] at hfault
    obtain ⟨-, hTYPO⟩ := Fault.unrecognized.inj (Except.error.inj hfault)
    rw [← hTYPO] at hpart
    exact ⟨hrun, hpart⟩
  · have hfind : (spellOutDefault (Token.scan "ALL:@SECLEVEL=2:@NOPE:TYPO")).find?
        (!sample.catalog.recognizes ·) = some "@NOPE" := by
      rw [← hlanguage]
      rfl
    exact (((evaluate_accepts_iff sample _).1 rfl).2 _ hfind).1 (by decide)

end Interpreter

end CipherString
