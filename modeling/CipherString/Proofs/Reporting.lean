import CipherString.Proofs.History
import CipherString.Proofs.Leniency

namespace CipherString

theorem Token.isDirective_of_isPrefixOf {token : String}
    (h : Instruction.levelDirective.toList.isPrefixOf token.toList) : isDirective token := by
  obtain ⟨rest, hrest⟩ := List.isPrefixOf_iff_prefix.mp h
  rw [isDirective, ← hrest]
  rfl

namespace Interpreter

/-- The notice about a token that is passed over: a directive whole, and any other token by what
follows its modifier and the first piece of that which is no keyword. -/
def complaint? (token : String) : Option Notice :=
  if Instruction.levelDirective.toList.isPrefixOf token.toList then
    some (.securityLevelIgnored token)
  else if Token.isDirective token then
    some (.directiveIgnored token)
  else
    ((Token.pieces (Token.body token)).find? (· ∉ Keyword.known)).map
      (.unmatched (Token.body token))

/-- Whether a token is passed over: one that sets a security level is under any policy, and one
outside the language under the lenient one. -/
def ignores (interpreter : Interpreter) (token : String) : Bool :=
  Instruction.levelDirective.toList.isPrefixOf token.toList ||
    interpreter.policy.unknownToken = .empty && !interpreter.catalog.recognizes token

def warnings (interpreter : Interpreter) (token : String) : List Notice :=
  if interpreter.ignores token then (complaint? token).toList else []

/-- What is reported about tokens that are applied to an empty selection: about each its warning, if
there is one, and how many suites are in and how many are shut out after it. -/
def trace (interpreter : Interpreter) (tokens : List String) : List Notice :=
  tokens.zipIdx.flatMap fun (token, i) =>
    interpreter.warnings token ++
      [.applied token (interpreter.history (tokens.take (i + 1))).chosen.length
        (interpreter.history (tokens.take (i + 1))).banned.size]

variable {interpreter : Interpreter} {token : String} {tokens : List String} {fault : Fault}

section Token

theorem understands_of_ignores (h : interpreter.ignores token) : interpreter.understands token := by
  rw [ignores, Bool.or_eq_true, Bool.and_eq_true, decide_eq_true_eq] at h
  rcases h with hlevel | ⟨hpolicy, -⟩
  · apply understands_of_recognizes
    rw [Catalog.recognizes, if_pos (Token.isDirective_of_isPrefixOf hlevel), hlevel, Bool.or_true]
  · exact understands_of_empty hpolicy token

/-- One warning is about a token that is passed over. It comes from the interpreter if the token is
a directive, and otherwise from where the meaning of its body is looked up. -/
theorem exists_complaint (h : interpreter.ignores token) :
    ∃ notice, complaint? token = some notice ∧ notice.level = .warning ∧
      notice.channel = if Token.isDirective token then .interpreter else .meaning := by
  rw [complaint?]
  by_cases hlevel : Instruction.levelDirective.toList.isPrefixOf token.toList
  · rw [if_pos hlevel, if_pos (Token.isDirective_of_isPrefixOf hlevel)]
    exact ⟨_, rfl, rfl, rfl⟩
  · rw [if_neg hlevel]
    cases hdirective : Token.isDirective token with
    | true => exact ⟨_, rfl, rfl, rfl⟩
    | false =>
        have hrefused : interpreter.catalog.recognizes token = false := by
          simp only [ignores, hlevel, Bool.false_or, Bool.and_eq_true, Bool.not_eq_true'] at h
          exact h.2
        obtain ⟨part, hpart, -⟩ := Catalog.exists_meaning_eq_error hdirective hrefused
        rw [hpart]
        exact ⟨_, rfl, rfl, rfl⟩

theorem notices_suitesOf (hdirective : Token.isDirective token = false) :
    (interpreter.catalog.suitesOf interpreter.policy.unknownToken (Token.body token)).notices =
      interpreter.warnings token := by
  have hlevel : ¬ Instruction.levelDirective.toList.isPrefixOf token.toList := by
    intro hlevel
    rw [Token.isDirective_of_isPrefixOf hlevel] at hdirective
    exact absurd hdirective nofun
  rw [Catalog.suitesOf, warnings, ignores, complaint?, if_neg hlevel, hdirective,
    if_neg Bool.false_ne_true]
  cases h : interpreter.catalog.recognizes token with
  | true =>
      obtain ⟨suites, hmeaning⟩ := Catalog.exists_meaning_eq_ok hdirective h
      simp [hmeaning, hlevel]
  | false =>
      obtain ⟨part, hpart, hmeaning⟩ := Catalog.exists_meaning_eq_error hdirective h
      rw [hmeaning, hpart]
      cases interpreter.policy.unknownToken with
      | strict => simp [hlevel]
      | empty => simp [hlevel]

theorem notices_read (interpreter : Interpreter) (token : String) :
    (interpreter.read token).notices = interpreter.warnings token := by
  cases hdirective : Token.isDirective token with
  | false =>
      obtain ⟨modifier, htoken⟩ := Instruction.exists_ofToken_eq_modify hdirective
      rw [read, htoken, ← notices_suitesOf hdirective]
      simp
  | true =>
      rw [read, Instruction.ofToken_of_isDirective hdirective, warnings, ignores, complaint?,
        Catalog.recognizes, hdirective, if_pos rfl, if_pos rfl]
      by_cases hsort : token = Instruction.sortDirective
      · have hlevel : Instruction.levelDirective.toList.isPrefixOf
            Instruction.sortDirective.toList = false := by decide
        rw [if_pos hsort, hsort, hlevel]
        simp
      · rw [if_neg hsort]
        by_cases hlevel : Instruction.levelDirective.toList.isPrefixOf token.toList
        · rw [if_pos hlevel, hlevel]
          rfl
        · rw [if_neg hlevel]
          cases interpreter.policy.unknownToken with
          | strict => simp [hlevel]
          | empty => simp [hlevel, hsort]

theorem step_of_understands (h : interpreter.understands token) (state : Selection) :
    interpreter.step state token =
      ⟨interpreter.warnings token ++
        [.applied token (state.act (interpreter.effect token)).chosen.length
          (state.act (interpreter.effect token)).banned.size],
        .ok (state.act (interpreter.effect token))⟩ := by
  rw [step, perform_eq_read, bind_assoc, Logged.bind_of_ok (outcome_read_of_understands h),
    notices_read]
  rfl

/-- A token that fails is not passed over, so nothing is reported about it. -/
theorem step_of_outcome_read_error (h : (interpreter.read token).outcome = .error fault)
    (state : Selection) : interpreter.step state token = ⟨[], .error fault⟩ := by
  have hwarnings : interpreter.warnings token = [] := by
    apply if_neg
    intro hignored
    have hnot := understands_of_outcome_read_error h
    rw [understands_of_ignores hignored] at hnot
    exact absurd hnot nofun
  rw [step, perform_eq_read, bind_assoc, Logged.bind_of_error h, notices_read, hwarnings]

end Token

section Run

theorem trace_concat (interpreter : Interpreter) (tokens : List String) (token : String) :
    interpreter.trace (tokens ++ [token]) =
      interpreter.trace tokens ++ (interpreter.warnings token ++
        [.applied token (interpreter.history (tokens ++ [token])).chosen.length
          (interpreter.history (tokens ++ [token])).banned.size]) := by
  rw [trace, List.zipIdx_append, List.flatMap_append]
  congr 1
  · apply List.flatMap_congr
    rintro ⟨earlier, i⟩ hmem
    have hi : i + 1 ≤ tokens.length := by
      have := List.snd_lt_of_mem_zipIdx hmem
      omega
    simp only [List.take_append_of_le_length hi]
  · have htake : (tokens ++ [token]).take (tokens.length + 1) = tokens ++ [token] :=
      List.take_of_length_le (by simp)
    simp [htake]

/-- The induction goes over the tokens from the last on, for each is reported with the selection
that those before it lead to. -/
theorem steps_of_understands (h : ∀ token ∈ tokens, interpreter.understands token) :
    interpreter.steps .empty tokens =
      ⟨interpreter.trace tokens, .ok (interpreter.history tokens)⟩ := by
  induction tokens using List.reverseRecOn with
  | nil => rfl
  | append_singleton tokens token ih =>
      rw [List.forall_mem_append, List.forall_mem_singleton] at h
      have hlast : interpreter.steps (interpreter.history tokens) [token] =
          interpreter.step (interpreter.history tokens) token := bind_pure _
      rw [steps_append, ih h.1, Logged.bind_of_ok rfl, hlast, step_of_understands h.2,
        trace_concat, history_concat]

/-- Nothing is reported from the first token on that fails. -/
theorem steps_append_of_error (h : ∀ token ∈ tokens, interpreter.understands token)
    (hread : (interpreter.read token).outcome = .error fault) (later : List String) :
    interpreter.steps .empty (tokens ++ token :: later) =
      ⟨interpreter.trace tokens, .error fault⟩ := by
  rw [steps_append, steps_of_understands h, Logged.bind_of_ok rfl, steps, List.foldlM_cons,
    step_of_outcome_read_error hread, Logged.bind_of_error rfl, List.append_nil]

/-- A run applies the tokens before the first that is not understood, and reports those alone. -/
theorem exists_steps_eq (interpreter : Interpreter) (tokens : List String) :
    ∃ applied rest, tokens = applied ++ rest ∧
      (interpreter.steps .empty applied).outcome = .ok (interpreter.history applied) ∧
      (interpreter.steps .empty tokens).notices = interpreter.trace applied ∧
      (rest = [] ∧ (interpreter.steps .empty tokens).outcome = .ok (interpreter.history applied) ∨
        ∃ token later fault, rest = token :: later ∧
          (interpreter.step (interpreter.history applied) token).outcome = .error fault ∧
          (interpreter.steps .empty tokens).outcome = .error fault) := by
  cases hfind : tokens.find? (!interpreter.understands ·) with
  | none =>
      have hunderstood : ∀ token ∈ tokens, interpreter.understands token := by
        simpa using List.find?_eq_none.mp hfind
      refine ⟨tokens, [], (List.append_nil _).symm, ?_⟩
      rw [steps_of_understands hunderstood]
      exact ⟨rfl, rfl, Or.inl ⟨rfl, rfl⟩⟩
  | some token =>
      obtain ⟨hnot, applied, later, rfl, hbefore⟩ := List.find?_eq_some_iff_append.mp hfind
      have hunderstood : ∀ token ∈ applied, interpreter.understands token := by
        simpa using hbefore
      cases hread : (interpreter.read token).outcome with
      | ok effect =>
          rw [understands_of_outcome_read hread] at hnot
          exact absurd hnot nofun
      | error fault =>
          refine ⟨applied, token :: later, rfl, ?_⟩
          rw [steps_append_of_error hunderstood hread, steps_of_understands hunderstood]
          refine ⟨rfl, rfl, Or.inr ⟨token, later, fault, rfl, ?_, rfl⟩⟩
          rw [step_of_outcome_read_error hread]

theorem countP_warning_warnings (interpreter : Interpreter) (token : String) :
    (interpreter.warnings token).countP (·.level = .warning) =
      if interpreter.ignores token then 1 else 0 := by
  rw [warnings]
  cases h : interpreter.ignores token with
  | true =>
      obtain ⟨notice, hnotice, hlevel, -⟩ := exists_complaint h
      simp [hnotice, hlevel]
  | false => rfl

theorem countP_warning_trace (interpreter : Interpreter) (tokens : List String) :
    (interpreter.trace tokens).countP (·.level = .warning) =
      tokens.countP interpreter.ignores := by
  induction tokens using List.reverseRecOn with
  | nil => rfl
  | append_singleton tokens token ih =>
      rw [trace_concat, List.countP_append, List.countP_append, List.countP_append, ih,
        countP_warning_warnings]
      simp [List.countP_singleton, Notice.level]

end Run

section Names

theorem notices_evaluate (interpreter : Interpreter) (expression : String) :
    (interpreter.evaluate expression).notices =
      (interpreter.steps .empty (spellOutDefault (Token.scan expression))).notices := by
  rw [evaluate, bind_pure_comp]
  exact Logged.notices_map _ _

theorem notices_namesOf (interpreter : Interpreter) (suites : List Suite) :
    (interpreter.namesOf suites).notices =
      (suites.filter fun s => interpreter.catalog.nameOf s = none).map .unnamed := by
  induction suites with
  | nil => rfl
  | cons suite suites ih =>
      rw [namesOf]
      cases hname : interpreter.catalog.nameOf suite with
      | some name =>
          rw [List.filter_cons_of_neg (by simp [hname]), ← ih]
          simp
      | none =>
          rw [List.filter_cons_of_pos (by simp [hname]), List.map_cons, ← ih]
          rfl

end Names

/-- What an evaluation reports is fixed token by token: those before the first that fails leave a
warning if they are passed over, and the sizes after them; that one and those after it leave
nothing. So each warning of an evaluation that succeeds is about one token that it passed over. The
names of the result are then looked up in order, and each suite without one is reported. -/
theorem evaluate_reports (interpreter : Interpreter) (expression : String) :
    (∃ applied rest, spellOutDefault (Token.scan expression) = applied ++ rest ∧
      (interpreter.steps .empty applied).outcome = .ok (interpreter.history applied) ∧
      (interpreter.evaluate expression).notices = interpreter.trace applied ∧
      (rest = [] ∧ (interpreter.evaluate expression).outcome =
          .ok (interpreter.history applied).suites ∨
        ∃ token later fault, rest = token :: later ∧
          (interpreter.step (interpreter.history applied) token).outcome = .error fault ∧
          (interpreter.evaluate expression).outcome = .error fault)) ∧
    (∀ token, interpreter.ignores token →
      ∃ notice, complaint? token = some notice ∧ notice.level = .warning ∧
        notice.channel = if Token.isDirective token then .interpreter else .meaning) ∧
    (∀ suites, (interpreter.evaluate expression).outcome = .ok suites →
      (interpreter.evaluate expression).notices.countP (·.level = .warning) =
        (spellOutDefault (Token.scan expression)).countP interpreter.ignores ∧
      (interpreter.evaluateNames expression).notices =
        (interpreter.evaluate expression).notices ++
          (suites.filter fun s => interpreter.catalog.nameOf s = none).map .unnamed) ∧
    ∀ fault, (interpreter.evaluate expression).outcome = .error fault →
      (interpreter.evaluateNames expression).notices =
        (interpreter.evaluate expression).notices := by
  have hnotices := interpreter.notices_evaluate expression
  refine ⟨?_, fun token => exists_complaint, ?_, ?_⟩
  · obtain ⟨applied, rest, hsplit, hok, htrace, hend⟩ :=
      interpreter.exists_steps_eq (spellOutDefault (Token.scan expression))
    refine ⟨applied, rest, hsplit, hok, hnotices.trans htrace, ?_⟩
    rw [outcome_evaluate]
    rcases hend with ⟨hrest, hsteps⟩ | ⟨token, later, fault, hrest, hfail, hsteps⟩
    · exact Or.inl ⟨hrest, by rw [hsteps]; rfl⟩
    · exact Or.inr ⟨token, later, fault, hrest, hfail, by rw [hsteps]; rfl⟩
  · intro suites hsuites
    have hunderstood := (outcome_evaluate_eq_ok_iff.mp hsuites).1
    constructor
    · rw [hnotices, steps_of_understands hunderstood, countP_warning_trace]
    · rw [evaluateNames, Logged.bind_of_ok hsuites, notices_namesOf]
  · intro fault hfault
    rw [evaluateNames, Logged.bind_of_error hfault]

/-- A level, a directive and a piece that are passed over, and a suite without a name in the result.
Under the strict policy it ends at the directive. -/
theorem evaluate_reports_of_TYPO :
    (∃ notice, complaint? "!kRSA+TYPO" = some notice ∧ notice.level = .warning ∧
      notice.channel = .meaning) ∧
    ["@SECLEVEL=2", "@NOPE", "AESGCM", "!kRSA+TYPO"].countP
      (sample.withUnknown .empty).ignores = 3 ∧
    ((sample.withUnknown .empty).evaluateNames
      "@SECLEVEL=2:@NOPE:AESGCM:!kRSA+TYPO").notices =
        [.securityLevelIgnored "@SECLEVEL=2", .applied "@SECLEVEL=2" 0 0,
          .directiveIgnored "@NOPE", .applied "@NOPE" 0 0, .applied "AESGCM" 1 0,
          .unmatched "kRSA+TYPO" "TYPO", .applied "!kRSA+TYPO" 1 0,
          .unnamed ⟨"ecdhe_rsa", "aes_256_gcm", "aead", "sha384"⟩] ∧
    (sample.evaluateNames "@SECLEVEL=2:@NOPE:AESGCM:!kRSA+TYPO").notices =
      [.securityLevelIgnored "@SECLEVEL=2", .applied "@SECLEVEL=2" 0 0] := by
  obtain ⟨-, hcomplaint, hok, -⟩ := evaluate_reports (sample.withUnknown .empty)
    "@SECLEVEL=2:@NOPE:AESGCM:!kRSA+TYPO"
  obtain ⟨-, -, -, hfail⟩ := evaluate_reports sample "@SECLEVEL=2:@NOPE:AESGCM:!kRSA+TYPO"
  obtain ⟨hcount, hnames⟩ := hok [⟨"ecdhe_rsa", "aes_256_gcm", "aead", "sha384"⟩] rfl
  have hignored : (sample.withUnknown .empty).ignores "!kRSA+TYPO" := by
    have hrefused : sample.catalog.recognizes "!kRSA+TYPO" = false := by
      rw [← understands_strict]
      rfl
    simp [ignores, hrefused]
  exact ⟨hcomplaint "!kRSA+TYPO" hignored, hcount.symm, hnames,
    hfail (.unrecognized "@NOPE" "@NOPE") rfl⟩

end Interpreter

end CipherString
