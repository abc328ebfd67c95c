import CipherString.Catalog.Builtin
import CipherString.Proofs.Invariant
import CipherString.Proofs.Denotation
import CipherString.Proofs.Language
import CipherString.Proofs.Scanning
import Mathlib.Data.List.Nodup

namespace CipherString

namespace Token

/-- Whether a name stands for itself in an expression: it is one token, without a modifier, and
neither a directive nor the default token. -/
def isPlain : List Char → Bool
  | [] => false
  | c :: rest =>
    !('@' :: modifiers).contains c && (c :: rest).all (!isSeparator ·) &&
      c :: rest != defaultToken.toList

theorem isPlain_iff {name : List Char} :
    isPlain name ↔
      name ≠ [] ∧ (∀ c ∈ name.head?, c ∉ '@' :: modifiers) ∧
        (∀ c ∈ name, isSeparator c = false) ∧ name ≠ defaultToken.toList := by
  rcases name with _ | ⟨c, rest⟩
  · simp [isPlain]
  · simp [isPlain, and_assoc]

theorem isWord_of_isPlain {name : List Char} (h : isPlain name) : IsWord name := by
  obtain ⟨hne, -, hfree, -⟩ := isPlain_iff.mp h
  exact ⟨hne, hfree⟩

theorem ne_defaultToken_of_isPlain {name : String} (h : isPlain name.toList) :
    name ≠ defaultToken := by
  obtain ⟨-, -, -, hdefault⟩ := isPlain_iff.mp h
  exact fun heq => hdefault (congrArg String.toList heq)

theorem scan_intercalate {names : List String} (h : ∀ name ∈ names, isPlain name.toList) :
    scan (":".intercalate names) = names :=
  scan_intercalate_of_isWord fun name hname => isWord_of_isPlain (h name hname)

/-- A literal name is given by its characters, which are checked without decoding the name. -/
theorem all_isPlain_cons {name : List Char} {suite : Suite} {entries : List (String × Suite)}
    (hname : isPlain name) (h : entries.all (isPlain ·.1.toList)) :
    ((String.ofList name, suite) :: entries).all (isPlain ·.1.toList) := by
  rw [List.all_cons, String.toList_ofList, hname, h]
  rfl

end Token

theorem Instruction.ofToken_of_isPlain {name : String} (h : Token.isPlain name.toList) :
    ofToken name = .modify .append name :=
  ofToken_eq_append (Token.isPlain_iff.mp h).2.1

theorem spellOutDefault_of_isPlain {names : List String}
    (h : ∀ name ∈ names, Token.isPlain name.toList) : spellOutDefault names = names := by
  rcases names with _ | ⟨name, names⟩
  · rfl
  · exact if_neg (Token.ne_defaultToken_of_isPlain (h name List.mem_cons_self))

theorem Catalog.all_isPlain_builtinEntries :
    builtinEntries.all (Token.isPlain ·.1.toList) := by
  rw [builtinEntries]
  repeat refine Token.all_isPlain_cons (by decide) ?_
  rfl

theorem Catalog.isPlain_of_mem_builtinNames :
    ∀ name ∈ builtinNames.names, Token.isPlain name.toList := by
  intro name hname
  obtain ⟨entry, hentry, rfl⟩ := List.mem_map.mp (NameTable.mem_names_ofList.mp hname)
  exact List.all_eq_true.mp all_isPlain_builtinEntries entry hentry

theorem Selection.append_singleton {state : Selection} {s : Suite} (hs : s ∉ state.chosen)
    (hbanned : s ∉ state.banned) :
    state.append [s] = { state with chosen := state.chosen ++ [s] } := by
  rw [append, List.filter_cons_of_pos (by simp [hs, hbanned]), List.filter_nil]
  rfl

namespace Interpreter

variable {interpreter : Interpreter} {suites : List Suite} {expression : String}

theorem outcome_namesOf (interpreter : Interpreter) (suites : List Suite) :
    (interpreter.namesOf suites).outcome = .ok (suites.filterMap interpreter.catalog.nameOf) := by
  induction suites with
  | nil => rfl
  | cons suite suites ih =>
      rw [namesOf]
      cases hname : interpreter.catalog.nameOf suite with
      | none =>
          rw [List.filterMap_cons_none hname]
          simp only [Logged.outcome_bind, Logged.outcome_report]
          exact ih
      | some name =>
          rw [List.filterMap_cons_some hname]
          simp only [Logged.outcome_bind, ih]
          rfl

theorem outcome_evaluateNames (interpreter : Interpreter) (expression : String) :
    (interpreter.evaluateNames expression).outcome =
      (interpreter.evaluate expression).outcome.map
        (·.filterMap interpreter.catalog.nameOf) := by
  rw [evaluateNames, Logged.outcome_bind]
  simp only [outcome_namesOf]
  rcases (interpreter.evaluate expression).outcome with fault | suites
  · rfl
  · rfl

theorem outcome_read_of_isPlain {name : String} {s : Suite} (hplain : Token.isPlain name.toList)
    (hname : interpreter.catalog.suiteNamed name = some s) :
    (interpreter.read name).outcome = .ok (.modify .append [s]) := by
  rw [outcome_read_modify (Instruction.ofToken_of_isPlain hplain),
    Catalog.suitesOf_of_suiteNamed hname]
  rfl

theorem outcome_evaluate_of_isPlain {body : String} (hplain : Token.isPlain body.toList)
    (hsuites : (interpreter.catalog.suitesOf interpreter.policy.unknownToken body).outcome =
      .ok suites) :
    (interpreter.evaluate body).outcome = .ok (Selection.empty.append suites).suites := by
  have happend := outcome_read_of_suitesOf (Instruction.ofToken_of_isPlain hplain) hsuites
  have hreads : interpreter.Reads (spellOutDefault (Token.scan body))
      [.modify .append suites] := by
    rw [Token.scan_of_isWord (Token.isWord_of_isPlain hplain), spellOutDefault,
      if_neg (Token.ne_defaultToken_of_isPlain hplain)]
    exact .cons happend .nil
  exact outcome_evaluate_of_reads hreads

/-- The names of suites that are not yet there let in exactly the suites that have one. -/
theorem outcome_steps_names
    (hplain : ∀ name ∈ interpreter.catalog.names.names, Token.isPlain name.toList)
    {state : Selection} (hnodup : suites.Nodup) (hchosen : ∀ s ∈ suites, s ∉ state.chosen)
    (hbanned : ∀ s ∈ suites, s ∉ state.banned) :
    (interpreter.steps state (suites.filterMap interpreter.catalog.nameOf)).outcome =
      .ok { state with
        chosen :=
          state.chosen ++ suites.filter fun s => (interpreter.catalog.nameOf s).isSome } := by
  induction suites generalizing state with
  | nil =>
      rw [List.filter_nil, List.append_nil]
      rfl
  | cons suite suites ih =>
      obtain ⟨hsuite, hnodup⟩ := List.nodup_cons.mp hnodup
      obtain ⟨hsuitechosen, hchosen⟩ := List.forall_mem_cons.mp hchosen
      obtain ⟨hsuitebanned, hbanned⟩ := List.forall_mem_cons.mp hbanned
      cases hname : interpreter.catalog.nameOf suite with
      | none =>
          rw [List.filterMap_cons_none hname, List.filter_cons_of_neg (by simp [hname])]
          exact ih hnodup hchosen hbanned
      | some name =>
          have hread : (interpreter.read name).outcome = .ok (.modify .append [suite]) :=
            outcome_read_of_isPlain (hplain name (NameTable.mem_names_of_nameOf hname))
              (NameTable.suiteNamed_of_nameOf hname)
          rw [List.filterMap_cons_some hname, outcome_steps_cons, hread,
            List.filter_cons_of_pos (by simp [hname])]
          show (interpreter.steps (state.append [suite]) _).outcome = _
          have hnew : ∀ s ∈ suites, s ∉ state.chosen ++ [suite] := by
            intro s hs
            rw [List.mem_append, List.mem_singleton, not_or]
            exact ⟨hchosen s hs, fun heq => hsuite (heq ▸ hs)⟩
          rw [Selection.append_singleton hsuitechosen hsuitebanned]
          simpa using @ih ⟨state.chosen ++ [suite], state.banned⟩ hnodup hnew hbanned

theorem nodup_of_outcome_evaluate (h : (interpreter.evaluate expression).outcome = .ok suites) :
    suites.Nodup := by
  obtain ⟨-, rfl⟩ := outcome_evaluate_eq_ok_iff.mp h
  rw [suites_play_empty]
  exact (interpreter.coherent_play_empty _).nodup

theorem nodup_filterMap_nameOf (c : Catalog) (h : suites.Nodup) :
    (suites.filterMap c.nameOf).Nodup := by
  apply h.filterMap
  intro s t name hs ht
  exact NameTable.eq_of_nameOf_eq hs ht

theorem filterMap_nameOf_filter (c : Catalog) (suites : List Suite) :
    (suites.filter fun s => (c.nameOf s).isSome).filterMap c.nameOf =
      suites.filterMap c.nameOf := by
  rw [List.filterMap_filter]
  apply List.filterMap_congr
  intro s _
  split
  · rfl
  · next h => exact (Option.not_isSome_iff_eq_none.mp h).symm

/-- With names that read as themselves, as the builtin ones do, the names of a selection, joined,
select again those of its suites that have a name, in the same order, and give the same names. -/
theorem evaluate_joined_names :
    (∀ name ∈ Catalog.builtinNames.names, Token.isPlain name.toList) ∧
    ∀ (interpreter : Interpreter) (expression : String) (suites : List Suite),
      (∀ name ∈ interpreter.catalog.names.names, Token.isPlain name.toList) →
      (interpreter.evaluate expression).outcome = .ok suites →
      ∃ names, (interpreter.evaluateNames expression).outcome = .ok names ∧
        (interpreter.evaluate (":".intercalate names)).outcome =
          .ok (suites.filter fun s => (interpreter.catalog.nameOf s).isSome) ∧
        names.Nodup ∧
        (interpreter.evaluateNames (":".intercalate names)).outcome = .ok names := by
  refine ⟨Catalog.isPlain_of_mem_builtinNames, ?_⟩
  intro interpreter expression suites hplain hevaluate
  have hnodup : suites.Nodup := nodup_of_outcome_evaluate hevaluate
  have hnames : ∀ name ∈ suites.filterMap interpreter.catalog.nameOf,
      Token.isPlain name.toList := by
    intro name hname
    obtain ⟨suite, -, hname⟩ := List.mem_filterMap.mp hname
    exact hplain name (NameTable.mem_names_of_nameOf hname)
  have hagain : (interpreter.evaluate
      (":".intercalate (suites.filterMap interpreter.catalog.nameOf))).outcome =
        .ok (suites.filter fun s => (interpreter.catalog.nameOf s).isSome) := by
    rw [outcome_evaluate, Token.scan_intercalate hnames, spellOutDefault_of_isPlain hnames,
      outcome_steps_names hplain hnodup (by simp) (by simp)]
    simp [Except.map, Selection.suites]
  refine ⟨suites.filterMap interpreter.catalog.nameOf, ?_, hagain, ?_, ?_⟩
  · rw [outcome_evaluateNames, hevaluate]
    rfl
  · exact nodup_filterMap_nameOf interpreter.catalog hnodup
  · rw [outcome_evaluateNames, hagain]
    exact congrArg Except.ok (filterMap_nameOf_filter interpreter.catalog suites)

/-- Two suites without a name drop out on the way. -/
theorem evaluate_joined_names_of_unnamed :
    (∀ name ∈ sample.catalog.names.names, Token.isPlain name.toList) ∧
      (sample.evaluate "ALL:NULL-MD5").outcome =
        .ok [⟨"ecdhe_rsa", "aes_256_gcm", "aead", "sha384"⟩,
          ⟨"rsa", "aes_128_cbc", "sha", "default_prf"⟩, ⟨"rsa", "null", "md5", "default_prf"⟩] ∧
      ∃ names, (sample.evaluateNames "ALL:NULL-MD5").outcome = .ok names ∧
        (sample.evaluate (":".intercalate names)).outcome =
          .ok [⟨"rsa", "null", "md5", "default_prf"⟩] ∧
        names.Nodup ∧
        (sample.evaluateNames (":".intercalate names)).outcome = .ok names := by
  have hplain : ∀ name ∈ sample.catalog.names.names, Token.isPlain name.toList := by
    have hnames : sample.catalog.names.names = ["NULL-MD5"] := rfl
    rw [hnames, List.forall_mem_singleton]
    decide
  have hevaluate : (sample.evaluate "ALL:NULL-MD5").outcome =
      .ok [⟨"ecdhe_rsa", "aes_256_gcm", "aead", "sha384"⟩,
        ⟨"rsa", "aes_128_cbc", "sha", "default_prf"⟩, ⟨"rsa", "null", "md5", "default_prf"⟩] := rfl
  exact ⟨hplain, hevaluate, evaluate_joined_names.2 sample _ _ hplain hevaluate⟩

end Interpreter

end CipherString
