import CipherString.Proofs.Effect
import CipherString.Proofs.Scanning

namespace CipherString

theorem spellOutDefault_append {front : List String} (hfront : front ≠ []) (rest : List String) :
    spellOutDefault (front ++ rest) = spellOutDefault front ++ rest := by
  obtain ⟨token, tokens, rfl⟩ := List.exists_cons_of_ne_nil hfront
  rw [List.cons_append, spellOutDefault, spellOutDefault]
  split
  · exact (List.append_assoc defaultExpansion tokens rest).symm
  · rfl

theorem spellOutDefault_of_not_mem {tokens : List String} (h : defaultToken ∉ tokens) :
    spellOutDefault tokens = tokens := by
  cases tokens with
  | nil => rfl
  | cons token tokens => exact if_neg fun heq => h (List.mem_cons.mpr (Or.inl heq.symm))

theorem spellOutDefault_defaultExpansion_append (rest : List String) :
    spellOutDefault (defaultExpansion ++ rest) = defaultExpansion ++ rest :=
  spellOutDefault_append (List.cons_ne_nil _ _) rest

/-- The expansion does not begin with the default token, so nothing is left to spell out. -/
theorem spellOutDefault_spellOutDefault (tokens : List String) :
    spellOutDefault (spellOutDefault tokens) = spellOutDefault tokens := by
  cases tokens with
  | nil => rfl
  | cons token tokens =>
      rw [spellOutDefault]
      split
      · exact spellOutDefault_defaultExpansion_append tokens
      · next hne => exact if_neg hne

/-- The default expansion as a text. -/
def longDefault : String := "ALL:!COMPLEMENTOFDEFAULT:!eNULL"

section Scan

variable {gap rest : String}

theorem scan_gap_default_append (hgap : Token.IsGap gap.toList)
    (hrest : ∀ c ∈ rest.toList.head?, Token.isSeparator c) :
    Token.scan (gap ++ defaultToken ++ rest) = defaultToken :: Token.scan rest := by
  have hscan : Token.scan defaultToken = [defaultToken] := by decide
  rw [Token.scan_append hrest, Token.scan_gap_append hgap, hscan]
  rfl

theorem scan_gap_longDefault_append (hgap : Token.IsGap gap.toList)
    (hrest : ∀ c ∈ rest.toList.head?, Token.isSeparator c) :
    Token.scan (gap ++ longDefault ++ rest) = defaultExpansion ++ Token.scan rest := by
  have hscan : Token.scan longDefault = defaultExpansion := by decide
  rw [Token.scan_append hrest, Token.scan_gap_append hgap, hscan]

end Scan

namespace Interpreter

theorem evaluate_eq_of_spellOutDefault_eq (interpreter : Interpreter) {expression other : String}
    (h : spellOutDefault (Token.scan expression) = spellOutDefault (Token.scan other)) :
    interpreter.evaluate expression = interpreter.evaluate other := by
  rw [evaluate, evaluate, run, run, h]

theorem evaluate_default_append (interpreter : Interpreter) {gap rest : String}
    (hgap : Token.IsGap gap.toList) (hrest : ∀ c ∈ rest.toList.head?, Token.isSeparator c) :
    interpreter.evaluate (gap ++ defaultToken ++ rest) =
      interpreter.evaluate (gap ++ longDefault ++ rest) := by
  apply evaluate_eq_of_spellOutDefault_eq
  rw [scan_gap_default_append hgap hrest, scan_gap_longDefault_append hgap hrest,
    spellOutDefault_defaultExpansion_append, spellOutDefault, if_pos rfl]

/-- The default token in front of anything is evaluated as its expansion is, with the same result or
fault and the same notices. To spell it out twice changes nothing more, and where it is not the
first token it stays. -/
theorem evaluate_default (interpreter : Interpreter) :
    (∀ gap rest : String, Token.IsGap gap.toList →
      (∀ c ∈ rest.toList.head?, Token.isSeparator c) →
        interpreter.evaluate (gap ++ "DEFAULT" ++ rest) =
          interpreter.evaluate (gap ++ "ALL:!COMPLEMENTOFDEFAULT:!eNULL" ++ rest)) ∧
    (∀ tokens, spellOutDefault (spellOutDefault tokens) = spellOutDefault tokens) ∧
    ∀ first before after,
      spellOutDefault (first :: before ++ "DEFAULT" :: after) =
        spellOutDefault (first :: before) ++ "DEFAULT" :: after := by
  refine ⟨?_, spellOutDefault_spellOutDefault, ?_⟩
  · intro gap rest hgap hrest
    exact interpreter.evaluate_default_append hgap hrest
  · intro first before after
    exact spellOutDefault_append (List.cons_ne_nil first before) ("DEFAULT" :: after)

/-- The same word further on is no keyword, and fails after either spelling of the first. -/
theorem evaluate_default_before_another :
    Token.IsGap " :".toList ∧ (∀ c ∈ ",+RSA:DEFAULT".toList.head?, Token.isSeparator c) ∧
      sample.evaluate (" :" ++ "DEFAULT" ++ ",+RSA:DEFAULT") =
        sample.evaluate (" :" ++ "ALL:!COMPLEMENTOFDEFAULT:!eNULL" ++ ",+RSA:DEFAULT") ∧
      (sample.evaluate (" :" ++ "ALL:!COMPLEMENTOFDEFAULT:!eNULL" ++ ",+RSA:DEFAULT")).outcome =
        .error (.unrecognized "DEFAULT" "DEFAULT") := by
  have hgap : Token.IsGap " :".toList := by decide
  have hrest : ∀ c ∈ ",+RSA:DEFAULT".toList.head?, Token.isSeparator c := by
    rintro _ ⟨⟩
    decide
  exact ⟨hgap, hrest, (evaluate_default sample).1 _ _ hgap hrest, rfl⟩

end Interpreter

end CipherString
