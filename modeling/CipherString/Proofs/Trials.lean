import CipherString.Proofs.Absorption
import CipherString.Proofs.Generation
import CipherString.Proofs.History
import CipherString.Proofs.Membership
import CipherString.Proofs.StrengthOrder

namespace CipherString

namespace Selection

theorem mem_suites_moveToEnd {state : Selection} {suites : List Suite} {s : Suite} :
    s ∈ (state.moveToEnd suites).suites ↔ s ∈ state.suites := by
  rw [mem_suites, mem_suites, mem_chosen_moveToEnd, banned_moveToEnd]

end Selection

namespace Trial

theorem isDescending_chosen_sortByStrength (state : Selection) :
    isDescending state.sortByStrength.chosen := by
  have hsorted : (state.sortByStrength.chosen.map Suite.strength).Pairwise
      fun m n => decide (n ≤ m) = true := by
    rw [List.pairwise_map]
    exact (Selection.pairwise_chosen_sortByStrength state).imp decide_eq_true
  rw [isDescending, decide_eq_true_eq]
  exact (List.mergeSort_of_pairwise hsorted).symm

theorem sameMembers_iff {l m : List Suite} : sameMembers l m ↔ ∀ s, s ∈ l ↔ s ∈ m := by
  simp only [sameMembers, Bool.and_eq_true, List.all_eq_true, decide_eq_true_eq]
  constructor
  · rintro ⟨hl, hm⟩ s
    exact ⟨hl s, hm s⟩
  · intro h
    exact ⟨fun s => (h s).mp, fun s => (h s).mpr⟩

end Trial

/-- A ban outlasts whatever stands behind it. -/
theorem Interpreter.not_mem_suites_play_of_ban {interpreter : Interpreter} {tokens : List String}
    {body : String} {suites : List Suite} {s : Suite}
    (hmeaning : interpreter.catalog.meaning body = .ok suites) (hban : "!" ++ body ∈ tokens)
    (hs : s ∈ suites) : s ∉ (interpreter.play .empty tokens).suites := by
  rw [mem_suites_play_iff]
  rintro ⟨hbans, -⟩
  exact hbans _ hban (mem_targets_ban_iff.mpr
    ⟨body, suites, rfl, Catalog.outcome_suitesOf_of_meaning hmeaning, hs⟩)

namespace Trial

open Drawing Interpreter

variable {σ : Type} {interpreter : Interpreter} {tokens : List String}
  {expression body : String}

theorem yields_selected (h : interpreter.catalog.IsExpression expression tokens) :
    (selected interpreter expression : Drawing σ (List Suite)).Yields
      (· = (interpreter.play .empty tokens).suites) :=
  yields_ofLogged (outcome_evaluate_of_isExpression h) rfl

theorem eq_append_of_bannedBody? {token : String} (h : bannedBody? token = some body) :
    token = "!" ++ body := by
  rw [bannedBody?] at h
  split at h
  · next rest hlist =>
      obtain rfl := Option.some.inj h
      apply String.toList_inj.mp
      simp [hlist]
  · cases h

theorem yields_checkBans (h : interpreter.catalog.IsExpression expression tokens)
    {checked : List String} (hchecked : ∀ token ∈ checked, token ∈ tokens) :
    (checkBans interpreter expression checked : Drawing σ Unit).Yields fun _ => True := by
  induction checked with
  | nil => exact yields_pure trivial
  | cons token checked ih =>
      obtain ⟨hmem, hrest⟩ := List.forall_mem_cons.mp hchecked
      rw [checkBans]
      cases hbanned : bannedBody? token with
      | none => exact ih hrest
      | some body =>
          obtain rfl := eq_append_of_bannedBody? hbanned
          have hbody := (h.isToken _ hmem).isBody (Instruction.ofToken_ban body)
          obtain ⟨banned, hmeaning⟩ := hbody.exists_meaning
          refine (yields_ofLogged (Catalog.outcome_suitesOf_of_meaning hmeaning) rfl).bind ?_
          rintro _ rfl
          refine (yields_selected (h.append hbody.isToken.isExpression)).bind ?_
          rintro _ rfl
          refine (yields_require ?_ _).bind fun _ _ => ih hrest
          -- The body is appended behind the ban, which shuts out what it denotes.
          have hban : "!" ++ body ∈ tokens ++ [body] := List.mem_append_left [body] hmem
          simpa using fun s hs hmember =>
            Interpreter.not_mem_suites_play_of_ban hmeaning hban hmember hs

theorem yields_checkMoves (h : interpreter.catalog.IsExpression expression tokens)
    (hbody : interpreter.catalog.IsBody body) :
    (checkMoves interpreter expression body (interpreter.play .empty tokens).suites :
      Drawing σ Unit).Yields fun _ => True := by
  obtain ⟨suites, hmeaning⟩ := hbody.exists_meaning
  have hplus : "+" ∈ modifiers := by decide
  refine (yields_selected (h.append_modified hplus hbody)).bind ?_
  rintro _ rfl
  refine yields_require (sameMembers_iff.mpr fun s => ?_) _
  rw [play_concat, effect_of_meaning (Instruction.ofToken_moveToEnd body) hmeaning]
  exact Selection.mem_suites_moveToEnd

theorem yields_checkSorting (h : interpreter.catalog.IsExpression expression tokens) :
    (checkSorting interpreter expression : Drawing σ Unit).Yields fun _ => True := by
  have hsort : ∀ tokens, interpreter.play .empty (tokens ++ [Instruction.sortDirective]) =
      (interpreter.play .empty tokens).sortByStrength :=
    fun tokens => interpreter.play_concat .empty tokens Instruction.sortDirective
  have htwice := h.append_sort.append_sort
  rw [String.append_assoc] at htwice
  refine (yields_selected h.append_sort).bind ?_
  rintro _ rfl
  refine (yields_selected htwice).bind ?_
  rintro _ rfl
  -- The second directive finds the selection sorted.
  rw [hsort (tokens ++ _), hsort, Selection.sortByStrength_sortByStrength]
  refine (yields_require (decide_eq_true rfl) _).bind fun _ _ => yields_require ?_ _
  rw [(interpreter.coherent_play_empty tokens).sortByStrength.suites_eq]
  exact isDescending_chosen_sortByStrength (interpreter.play .empty tokens)

theorem yields_checkDeletion (hbody : interpreter.catalog.IsBody body) :
    (checkDeletion interpreter body : Drawing σ Unit).Yields fun _ => True := by
  obtain ⟨suites, hmeaning⟩ := hbody.exists_meaning
  have hminus : "-" ∈ modifiers := by decide
  have hplain := hbody.isToken.isExpression
  refine (yields_selected ((hplain.append_modified hminus hbody).append hplain)).bind ?_
  rintro _ rfl
  refine (yields_selected hplain).bind ?_
  rintro _ rfl
  refine yields_require (decide_eq_true ?_) _
  have happend := effect_of_meaning (Instruction.ofToken_of_isPlain hbody.isPlain) hmeaning
  have hdelete := effect_of_meaning (Instruction.ofToken_delete body) hmeaning
  simp only [play_append, play_cons, play_nil, happend, hdelete]
  exact congrArg Selection.suites (Selection.append_delete_append_empty suites)

theorem yields_checkDefault {rest : String} (h : interpreter.catalog.IsExpression rest tokens) :
    (checkDefault interpreter rest : Drawing σ Unit).Yields fun _ => True := by
  have hhead : ∀ c ∈ (":" ++ rest).toList.head?, Token.isSeparator c := by
    rw [String.toList_append]
    rintro _ ⟨⟩
    decide
  have hequal := @interpreter.evaluate_default_append "" (":" ++ rest) (by decide) hhead
  rw [← String.append_assoc, ← String.append_assoc] at hequal
  have hlong : (selected interpreter (longDefault ++ ":" ++ rest) : Drawing σ (List Suite)).Yields
      (· = (interpreter.play .empty (defaultExpansion ++ tokens)).suites) :=
    yields_selected (interpreter.catalog.isExpression_longDefault.append h)
  have hshort : (selected interpreter ("DEFAULT:" ++ rest) : Drawing σ (List Suite)) =
      selected interpreter (longDefault ++ ":" ++ rest) := congrArg ofLogged hequal
  rw [checkDefault, hshort]
  refine hlong.bind ?_
  rintro _ rfl
  refine hlong.bind ?_
  rintro _ rfl
  exact yields_require (decide_eq_true rfl) _

variable (source : Source σ) {catalog : Catalog} {shape : Shape}

theorem yields_trial (hbody : (randomBody source catalog shape).Yields catalog.IsBody)
    (hcount : 1 ≤ shape.tokens) (seed number : Int) :
    (trial source catalog shape seed number).Yields fun _ => True := by
  refine (yields_advance _).bind fun _ _ => ?_
  refine (yields_randomTokens source hbody hcount).bind fun tokens htokens => ?_
  have hwords : ∀ token ∈ tokens, Token.IsWord token.toList := fun token htoken =>
    (htokens token htoken).isWord
  refine (yields_join source hwords).bind fun expression hscan => ?_
  have h : catalog.IsExpression expression tokens := ⟨hscan, htokens⟩
  refine (@yields_selected σ ⟨catalog, {}⟩ tokens expression h).bind ?_
  rintro _ rfl
  have hnodup := nodup_of_outcome_evaluate (@outcome_evaluate_of_isExpression ⟨catalog, {}⟩ _ _ h)
  refine (yields_require (decide_eq_true hnodup) _).bind fun _ _ => ?_
  refine (yields_checkBans h fun token htoken => htoken).bind fun _ _ => ?_
  refine hbody.bind fun moved hmoved => ?_
  refine (yields_checkMoves h hmoved).bind fun _ _ => ?_
  refine (yields_checkSorting h).bind fun _ _ => ?_
  refine hbody.bind fun deleted hdeleted => ?_
  refine (yields_checkDeletion hdeleted).bind fun _ _ => ?_
  exact yields_checkDefault (Catalog.isExpression_intercalate htokens)

theorem yields_randomBody_builtin (shape : Shape) :
    (randomBody source Catalog.builtin shape).Yields Catalog.builtin.IsBody := by
  have hnames : Catalog.builtin.names = Catalog.builtinNames := by
    rw [Catalog.builtin, Catalog.ofLists]
  have hne : Catalog.builtinEntries ≠ [] := by
    rw [Catalog.builtinEntries]
    exact List.cons_ne_nil _ _
  obtain ⟨entry, hentry⟩ := List.exists_mem_of_ne_nil _ hne
  have hmem := NameTable.mem_names_ofList.mpr (List.mem_map_of_mem hentry)
  apply yields_randomBody
  · rw [hnames]
    exact List.ne_nil_of_mem hmem
  · rw [hnames]
    exact Catalog.isPlain_of_mem_builtinNames

/-- Over the builtin catalog no number of trials finds a fault. -/
theorem yields_trials (hcount : 1 ≤ shape.tokens) (seed first : Int) (count : Nat) :
    (trials source shape seed first count).Yields fun _ => True := by
  induction count generalizing first with
  | zero => exact yields_pure trivial
  | succ count ih =>
      have hbody := yields_randomBody_builtin source shape
      exact (yields_trial source hbody hcount seed first).bind fun _ _ => ih (first + 1)

/-- A trial over a catalog whose names read as themselves succeeds, whatever the random source does.
The tokens that it makes are understood in every selection, also under the policy that fails on
unknown ones, and they are what is found in the text that they are joined to, whatever is put
between them. -/
theorem trial_succeeds (hnames : catalog.names.names ≠ [])
    (hplain : ∀ name ∈ catalog.names.names, Token.isPlain name.toList)
    (hcount : 1 ≤ shape.tokens) :
    (∀ seed number state, (trial source catalog shape seed number state).1.outcome = .ok ()) ∧
      ∀ state, ∃ tokens, (randomTokens source catalog shape state).1.outcome = .ok tokens ∧
        (∀ policy, ∀ token ∈ tokens, ∀ selection, ∃ next,
          ((⟨catalog, policy⟩ : Interpreter).step selection token).outcome = .ok next) ∧
        ∀ (τ : Type) (separating : Source τ) (state : τ), ∃ expression,
          (join separating tokens state).1.outcome = .ok expression ∧
            Token.scan expression = tokens := by
  have hbody := yields_randomBody source hnames hplain shape
  constructor
  · intro seed number state
    obtain ⟨_, houtcome, -⟩ := yields_trial source hbody hcount seed number state
    exact houtcome
  · intro state
    obtain ⟨tokens, houtcome, htokens⟩ := yields_randomTokens source hbody hcount state
    refine ⟨tokens, houtcome, ?_, ?_⟩
    · intro policy token htoken selection
      have hunderstood := @understands_of_isToken ⟨catalog, policy⟩ token (htokens token htoken)
      exact ⟨_, outcome_step_of_understands hunderstood selection⟩
    · intro τ separating
      exact yields_join separating fun token htoken => (htokens token htoken).isWord

/-- A trial by a script that bans a name and then sorts. -/
theorem trial_succeeds_of_script :
    sample.catalog.names.names ≠ [] ∧
      (∀ name ∈ sample.catalog.names.names, Token.isPlain name.toList) ∧
      (1 : Int) ≤ 2 ∧
      (randomTokens (Script.source [1, 1000, 3, 0, 0, 0]) sample.catalog ⟨2, 1/2, 1/4, 1/8⟩
        {}).1.outcome = .ok ["!NULL-MD5", "@STRENGTH"] ∧
      (trial (Script.source [1, 1000, 3, 0, 0, 0]) sample.catalog ⟨2, 1/2, 1/4, 1/8⟩ 7 0
        {}).1.outcome = .ok () := by
  have hnames : sample.catalog.names.names ≠ [] := by decide
  have hplain : ∀ name ∈ sample.catalog.names.names, Token.isPlain name.toList := by decide
  have hcount : (1 : Int) ≤ 2 := by decide
  have hsucceeds := @trial_succeeds _ (Script.source [1, 1000, 3, 0, 0, 0]) sample.catalog
    ⟨2, 1/2, 1/4, 1/8⟩ hnames hplain hcount
  exact ⟨hnames, hplain, hcount, by decide +kernel, hsucceeds.1 7 0 {}⟩

end Trial

end CipherString
