import CipherString.Proofs.Naming
import CipherString.RootLogger

namespace CipherString

namespace RootLogger

/-- A call with its outcome and the root logger after it. -/
structure Call where
  argument : Datum
  outcome : Except Fault Unit
  root : RootLogger

def Call.succeeds (call : Call) : Bool :=
  call.outcome.isOk

/-- Calls from a root logger on. -/
def callsFrom (setting : Option String) (root : RootLogger) (arguments : List Datum) : List Call :=
  (arguments.zip (calls setting root arguments)).map fun entry => ⟨entry.1, entry.2.1, entry.2.2⟩

/-- A value is a text that spells the name of a level. -/
def Names (value : Datum) (level : Nat) : Prop :=
  ∃ s, value = .text s ∧ (Policy.wordOf s, level) ∈ levels

/-- The root logger that calls leave, from one of that level and without handlers. -/
def left (level : Nat) (past : List Call) : RootLogger :=
  (past.getLast?.map Call.root).getD ⟨level, []⟩

/-- What is to hold after the calls of the past: until one succeeds, the root logger is as it was,
and from then on it is as the first that did has set it up. -/
structure Records (setting : Option String) (level : Nat) (past : List Call) : Prop where
  untouched : past.find? Call.succeeds = none → left level past = ⟨level, []⟩
  setUp : ∀ first, past.find? Call.succeeds = some first →
    ∃ named, Names (chosen setting first.argument) named ∧
      left level past = ⟨named, [standardHandler]⟩

variable {setting : Option String} {level : Nat} {past : List Call} {call : Call}

section Level

theorem levelOf_eq_ok_iff {value : Datum} : levelOf value = .ok level ↔ Names value level := by
  have hnodup : (levels.map Prod.fst).Nodup := by decide
  cases value with
  | text s =>
      have hnames : levels.lookup (Policy.wordOf s) = some level ↔ Names (.text s) level := by
        rw [lookup_eq_some_iff_mem hnodup]
        constructor
        · exact fun h => ⟨s, rfl, h⟩
        · rintro ⟨_, ⟨⟩, h⟩
          exact h
      rw [← hnames, levelOf]
      cases levels.lookup (Policy.wordOf s) with
      | none => simp
      | some found => simp
  | _ => simp [levelOf, Names]

/-- A value that is no text names no level, nor does a text that spells anything else. -/
theorem exists_names_iff {value : Datum} : (∃ level, Names value level) ↔
    ∃ s, value = .text s ∧ Policy.wordOf s ∈
      ["CRITICAL", "FATAL", "ERROR", "WARN", "WARNING", "INFO", "DEBUG", "NOTSET"] := by
  have hwords : ["CRITICAL", "FATAL", "ERROR", "WARN", "WARNING", "INFO", "DEBUG", "NOTSET"] =
      levels.map Prod.fst := rfl
  rw [hwords]
  constructor
  · rintro ⟨level, s, rfl, hlevel⟩
    exact ⟨s, rfl, List.mem_map.mpr ⟨(Policy.wordOf s, level), hlevel, rfl⟩⟩
  · rintro ⟨s, rfl, hword⟩
    obtain ⟨⟨word, level⟩, hlevel, rfl⟩ := List.mem_map.mp hword
    exact ⟨level, s, rfl, hlevel⟩

end Level

section Step

theorem configure_bare (level named : Nat) :
    configure ⟨level, []⟩ named = ⟨named, [standardHandler]⟩ := rfl

theorem configure_again (level named : Nat) :
    configure ⟨level, [standardHandler]⟩ named = ⟨level, [standardHandler]⟩ := rfl

/-- The call with an argument of a root logger. -/
def called (setting : Option String) (root : RootLogger) (argument : Datum) : Call :=
  ⟨argument, (root.call setting argument).1, (root.call setting argument).2⟩

/-- The level is read first; only a call that finds one does anything. -/
theorem called_cases (setting : Option String) (root : RootLogger) (argument : Datum) :
    ((called setting root argument).succeeds = true ∧
      ∃ named, Names (chosen setting argument) named ∧
        (called setting root argument).root = root.configure named) ∨
    ((called setting root argument).succeeds = false ∧
      (¬ ∃ named, Names (chosen setting argument) named) ∧
        (called setting root argument).root = root) := by
  cases hlevel : levelOf (chosen setting argument) with
  | ok named =>
      have hcall : root.call setting argument = (.ok (), root.configure named) := by
        rw [RootLogger.call, hlevel]
      refine Or.inl ⟨?_, named, levelOf_eq_ok_iff.mp hlevel, ?_⟩
      · rw [Call.succeeds, called, hcall]
        rfl
      · rw [called, hcall]
  | error fault =>
      have hcall : root.call setting argument = (.error fault, root) := by
        rw [RootLogger.call, hlevel]
      refine Or.inr ⟨?_, ?_, ?_⟩
      · rw [Call.succeeds, called, hcall]
        rfl
      · rintro ⟨named, hnamed⟩
        rw [levelOf_eq_ok_iff.mpr hnamed] at hlevel
        cases hlevel
      · rw [called, hcall]

theorem left_concat (level : Nat) (past : List Call) (call : Call) :
    left level (past ++ [call]) = call.root := by
  simp [left]

theorem records_nil (setting : Option String) (level : Nat) : Records setting level [] where
  untouched := fun _ => rfl
  setUp := nofun

theorem Records.first {named : Nat} (h : Records setting level past)
    (hpast : past.find? Call.succeeds = none) (hsucceeds : call.succeeds)
    (hnamed : Names (chosen setting call.argument) named)
    (hroot : call.root = (left level past).configure named) :
    Records setting level (past ++ [call]) := by
  have hfind : (past ++ [call]).find? Call.succeeds = some call := by
    simp [List.find?_append, hpast, hsucceeds]
  constructor
  · intro hnone
    exact absurd (hfind.symm.trans hnone) nofun
  · intro first hfirst
    obtain rfl := Option.some.inj (hfind.symm.trans hfirst)
    refine ⟨named, hnamed, ?_⟩
    rw [left_concat, hroot, h.untouched hpast, configure_bare]

theorem Records.again {earlier : Call} {named : Nat} (h : Records setting level past)
    (hpast : past.find? Call.succeeds = some earlier)
    (hroot : call.root = (left level past).configure named) :
    Records setting level (past ++ [call]) := by
  have hfind : (past ++ [call]).find? Call.succeeds = some earlier := by
    simp [List.find?_append, hpast]
  obtain ⟨earlierNamed, hnamed, hleft⟩ := h.setUp earlier hpast
  constructor
  · intro hnone
    exact absurd (hfind.symm.trans hnone) nofun
  · intro first hfirst
    obtain rfl := Option.some.inj (hfind.symm.trans hfirst)
    refine ⟨earlierNamed, hnamed, ?_⟩
    rw [left_concat, hroot, hleft, configure_again]

theorem Records.failure (h : Records setting level past) (hfails : call.succeeds = false)
    (hroot : call.root = left level past) : Records setting level (past ++ [call]) := by
  have hfind : (past ++ [call]).find? Call.succeeds = past.find? Call.succeeds := by
    simp [List.find?_append, hfails]
  constructor
  · rw [hfind, left_concat, hroot]
    exact h.untouched
  · rw [hfind, left_concat, hroot]
    exact h.setUp

theorem Records.called (h : Records setting level past) (argument : Datum) :
    Records setting level
      (past ++ [RootLogger.called setting (left level past) argument]) := by
  rcases called_cases setting (left level past) argument with
    ⟨hsucceeds, named, hnamed, hroot⟩ | ⟨hfails, -, hroot⟩
  · cases hpast : past.find? Call.succeeds with
    | none => exact h.first hpast hsucceeds hnamed hroot
    | some earlier => exact h.again hpast hroot
  · exact h.failure hfails hroot

end Step

section Run

theorem map_argument_callsFrom (setting : Option String) (root : RootLogger)
    (arguments : List Datum) : (callsFrom setting root arguments).map Call.argument = arguments := by
  induction arguments generalizing root with
  | nil => rfl
  | cons argument arguments ih =>
      exact congrArg (argument :: ·) (ih (root.call setting argument).2)

/-- Each call acts on the root logger that those before it leave. -/
theorem Records.of_callsFrom (h : Records setting level past) {arguments : List Datum}
    {before rest : List Call}
    (hcalls : callsFrom setting (left level past) arguments = before ++ call :: rest) :
    Records setting level (past ++ before) ∧
      call = RootLogger.called setting (left level (past ++ before)) call.argument := by
  -- The past is general, since each call that the induction passes by becomes a part of it.
  induction arguments generalizing past before with
  | nil => exact absurd hcalls.symm (by simp [callsFrom])
  | cons argument arguments ih =>
      cases before with
      | nil =>
          obtain ⟨rfl, -⟩ := List.cons.inj hcalls
          rw [List.append_nil]
          exact ⟨h, rfl⟩
      | cons first before =>
          obtain ⟨rfl, hrest⟩ := List.cons.inj hcalls
          have hafter := ih (h.called argument) (by rw [left_concat]; exact hrest)
          rwa [List.append_assoc] at hafter

end Run

/-- Whatever calls are made, one after another, of a root logger without handlers: a call succeeds
exactly if the value that it goes by is a text that spells the name of a level, and a call that
fails leaves the root logger as it was. As long as none has succeeded there is no handler, and the
level is the one at the start; from the first that succeeds on there is one handler, and the level
is the one that this call names. -/
theorem calls_set_up_once (setting : Option String) (level : Nat) (arguments : List Datum) :
    (callsFrom setting ⟨level, []⟩ arguments).map Call.argument = arguments ∧
    ∀ before call rest, callsFrom setting ⟨level, []⟩ arguments = before ++ call :: rest →
      (call.succeeds ↔ ∃ s, chosen setting call.argument = .text s ∧ Policy.wordOf s ∈
        ["CRITICAL", "FATAL", "ERROR", "WARN", "WARNING", "INFO", "DEBUG", "NOTSET"]) ∧
      (call.succeeds = false → call.root = left level before) ∧
      call.root.handlers.length = (if (before ++ [call]).any Call.succeeds then 1 else 0) ∧
      ((before ++ [call]).find? Call.succeeds = none → call.root.level = level) ∧
      ∀ first, (before ++ [call]).find? Call.succeeds = some first →
        Names (chosen setting first.argument) call.root.level := by
  refine ⟨map_argument_callsFrom setting _ arguments, ?_⟩
  intro before call rest hcalls
  obtain ⟨hbefore, hcall⟩ := (records_nil setting level).of_callsFrom hcalls
  rw [List.nil_append] at hbefore hcall
  have hafter := hbefore.called call.argument
  have hcases := called_cases setting (left level before) call.argument
  rw [← hcall] at hafter hcases
  have hroot := left_concat level before call
  refine ⟨?_, ?_, ?_, ?_, ?_⟩
  · rw [← exists_names_iff]
    rcases hcases with ⟨hsucceeds, named, hnamed, -⟩ | ⟨hfails, hnone, -⟩
    · exact iff_of_true hsucceeds ⟨named, hnamed⟩
    · exact iff_of_false (by simp [hfails]) hnone
  · intro hfails
    rcases hcases with ⟨hsucceeds, -⟩ | ⟨-, -, hsame⟩
    · exact absurd (hsucceeds.symm.trans hfails) nofun
    · exact hsame
  · rw [← hroot, ← List.isSome_find?]
    cases hfind : (before ++ [call]).find? Call.succeeds with
    | none => rw [hafter.untouched hfind]; rfl
    | some first =>
        obtain ⟨named, -, hleft⟩ := hafter.setUp first hfind
        rw [hleft]
        rfl
  · intro hnone
    rw [← hroot, hafter.untouched hnone]
  · intro first hfirst
    obtain ⟨named, hnamed, hleft⟩ := hafter.setUp first hfirst
    rw [← hroot, hleft]
    exact hnamed

/-- A number and an unknown name fail, an empty text goes by the setting, and a level that is named
later comes too late. -/
theorem calls_set_up_once_of_late_debug :
    ∃ before call, callsFrom (some " Warning") ⟨20, []⟩
        [.whole 10, .text "LOUD", .text "", .text "debug"] = before ++ call :: [] ∧
      (before ++ [call]).map Call.succeeds = [false, false, true, true] ∧
      call.root.handlers.length = 1 ∧ call.root.level = 30 := by
  have hcalls : callsFrom (some " Warning") ⟨20, []⟩
        [.whole 10, .text "LOUD", .text "", .text "debug"] =
      callsFrom (some " Warning") ⟨20, []⟩ [.whole 10, .text "LOUD", .text ""] ++
        called (some " Warning")
          (left 20 (callsFrom (some " Warning") ⟨20, []⟩ [.whole 10, .text "LOUD", .text ""]))
          (.text "debug") :: [] := rfl
  obtain ⟨-, hsplit⟩ := calls_set_up_once (some " Warning") 20
    [.whole 10, .text "LOUD", .text "", .text "debug"]
  obtain ⟨-, -, hhandlers, -, hlevel⟩ := hsplit _ _ _ hcalls
  refine ⟨_, _, hcalls, by decide +kernel, hhandlers.trans (by decide +kernel), ?_⟩
  obtain ⟨s, hs, hnamed⟩ := hlevel _ rfl
  obtain rfl : " Warning" = s := Datum.text.inj hs
  have hword : Policy.wordOf " Warning" = "WARNING" := by decide +kernel
  have hwarning : ∀ named, ("WARNING", named) ∈ levels → named = 30 := by simp [levels]
  exact hwarning _ (hword ▸ hnamed)

end RootLogger

end CipherString
