import CipherString.Proofs.DefaultToken
import CipherString.Proofs.RoundTrip
import CipherString.Proofs.Yields

namespace CipherString

namespace Token

theorem splitAtPlus_of_not_mem {cs : List Char} (h : '+' ∉ cs) : splitAtPlus cs = [cs] := by
  induction cs with
  | nil => rfl
  | cons c cs ih =>
      rw [List.mem_cons, not_or] at h
      rw [splitAtPlus, if_neg (Ne.symm h.1), ih h.2]
      rfl

theorem splitAtPlus_intercalate {ws : List (List Char)} (hne : ws ≠ [])
    (hws : ∀ w ∈ ws, '+' ∉ w) : splitAtPlus (['+'].intercalate ws) = ws := by
  induction ws with
  | nil => exact absurd rfl hne
  | cons w ws ih =>
      obtain ⟨hw, hws⟩ := List.forall_mem_cons.mp hws
      rcases ws with _ | ⟨v, ws⟩
      · rw [List.intercalate_singleton, splitAtPlus_of_not_mem hw]
      · rw [List.intercalate_cons_cons, List.append_assoc, List.singleton_append,
          splitAtPlus_append_plus, splitAtPlus_of_not_mem hw, ih (List.cons_ne_nil v ws) hws]
        rfl

theorem toList_intercalate_plus (words : List String) :
    ("+".intercalate words).toList = ['+'].intercalate (words.map String.toList) := by
  rw [String.toList_intercalate]
  rfl

theorem pieces_intercalate {words : List String} (hne : words ≠ [])
    (hwords : ∀ word ∈ words, '+' ∉ word.toList) : pieces ("+".intercalate words) = words := by
  rw [pieces, toList_intercalate_plus, splitAtPlus_intercalate (by simpa using hne)
    (by simpa using hwords), List.map_map]
  simp [Function.comp_def]

theorem mem_intercalate_plus {ws : List (List Char)} {c : Char} (hc : c ∈ ['+'].intercalate ws) :
    c = '+' ∨ ∃ w ∈ ws, c ∈ w := by
  induction ws with
  | nil => exact absurd hc List.not_mem_nil
  | cons w ws ih =>
      rcases ws with _ | ⟨v, ws⟩
      · rw [List.intercalate_singleton] at hc
        exact Or.inr ⟨w, List.mem_cons_self, hc⟩
      · rw [List.intercalate_cons_cons, List.mem_append, List.mem_append, List.mem_singleton] at hc
        rcases hc with (hc | hc) | hc
        · exact Or.inr ⟨w, List.mem_cons_self, hc⟩
        · exact Or.inl hc
        · refine (ih hc).imp id ?_
          rintro ⟨u, hu, hcu⟩
          exact ⟨u, List.mem_cons_of_mem w hu, hcu⟩

/-- Plain words without a plus sign make a plain combination. -/
theorem isPlain_intercalate {ws : List (List Char)} (hne : ws ≠ [])
    (hplain : ∀ w ∈ ws, isPlain w) (hplus : ∀ w ∈ ws, '+' ∉ w) :
    isPlain (['+'].intercalate ws) := by
  obtain ⟨w, rest, rfl⟩ := List.exists_cons_of_ne_nil hne
  obtain ⟨back, hback⟩ : ∃ back, ['+'].intercalate (w :: rest) = w ++ back := by
    rcases rest with _ | ⟨v, rest⟩
    · exact ⟨[], by rw [List.intercalate_singleton, List.append_nil]⟩
    · exact ⟨_, by rw [List.intercalate_cons_cons, List.append_assoc]⟩
  obtain ⟨hw, hhead, -, -⟩ := isPlain_iff.mp (hplain w List.mem_cons_self)
  obtain ⟨c, cs, rfl⟩ := List.exists_cons_of_ne_nil hw
  refine isPlain_iff.mpr ⟨?_, ?_, ?_, ?_⟩
  · rw [hback]
    exact List.cons_ne_nil _ _
  · rw [hback]
    exact hhead
  · intro d hd
    rcases mem_intercalate_plus hd with rfl | ⟨v, hv, hdv⟩
    · decide
    · exact (isPlain_iff.mp (hplain v hv)).2.2.1 d hdv
  · -- The default token has no plus sign, so it would be the only word, which is plain.
    intro hdefault
    have hpieces := splitAtPlus_intercalate hne hplus
    rw [hdefault] at hpieces
    have hself : isPlain defaultToken.toList := by
      apply hplain
      rw [← hpieces]
      decide
    exact absurd hself (by decide)

end Token

theorem Keyword.isPlain_of_mem_known {word : String} (h : word ∈ known) :
    Token.isPlain word.toList ∧ '+' ∉ word.toList := by
  rw [mem_known_iff] at h
  rcases h with h | h | h
  · revert word
    decide
  · revert word
    decide
  · revert word
    decide

namespace Catalog

/-- What may stand in an expression alone or behind a modifier, and is understood there. -/
structure IsBody (c : Catalog) (body : String) : Prop where
  isPlain : Token.isPlain body.toList
  denotes : body ∈ c.names.names ∨ ∀ piece ∈ Token.pieces body, piece ∈ Keyword.known

/-- The tokens that random expressions consist of. -/
inductive IsToken (c : Catalog) : String → Prop
  | sort : c.IsToken Instruction.sortDirective
  | modified {modifier body : String} :
      modifier ∈ Trial.modifiers → c.IsBody body → c.IsToken (modifier ++ body)

/-- A text is an expression of such tokens if scanning it finds them, in order. -/
structure IsExpression (c : Catalog) (expression : String) (tokens : List String) : Prop where
  scan_eq : Token.scan expression = tokens
  isToken : ∀ token ∈ tokens, c.IsToken token

variable {c : Catalog} {body token : String}

theorem isBody_intercalate (c : Catalog) {words : List String} (hne : words ≠ [])
    (hwords : ∀ word ∈ words, word ∈ Keyword.known) : c.IsBody ("+".intercalate words) := by
  constructor
  · rw [Token.toList_intercalate_plus]
    refine Token.isPlain_intercalate (by simpa using hne) ?_ ?_
    · rw [List.forall_mem_map]
      exact fun word hword => (Keyword.isPlain_of_mem_known (hwords word hword)).1
    · rw [List.forall_mem_map]
      exact fun word hword => (Keyword.isPlain_of_mem_known (hwords word hword)).2
  · right
    rw [Token.pieces_intercalate hne fun word hword =>
      (Keyword.isPlain_of_mem_known (hwords word hword)).2]
    exact hwords

theorem isBody_of_mem_known (c : Catalog) (h : body ∈ Keyword.known) : c.IsBody body := by
  have hbody := c.isBody_intercalate (List.cons_ne_nil body []) (by simpa using h)
  rwa [String.intercalate_singleton] at hbody

theorem IsBody.exists_meaning (h : c.IsBody body) : ∃ suites, c.meaning body = .ok suites :=
  exists_meaning_of_denotes h.denotes

theorem IsBody.exists_ofToken (h : c.IsBody body) {modifier : String}
    (hmodifier : modifier ∈ Trial.modifiers) :
    ∃ kind, Instruction.ofToken (modifier ++ body) = .modify kind body := by
  simp only [Trial.modifiers, List.mem_cons, List.not_mem_nil, or_false, or_self_left] at hmodifier
  rcases hmodifier with rfl | rfl | rfl | rfl
  · rw [String.empty_append]
    exact ⟨.append, Instruction.ofToken_of_isPlain h.isPlain⟩
  · exact ⟨.ban, Instruction.ofToken_ban body⟩
  · exact ⟨.delete, Instruction.ofToken_delete body⟩
  · exact ⟨.moveToEnd, Instruction.ofToken_moveToEnd body⟩

theorem IsToken.isWord (h : c.IsToken token) : Token.IsWord token.toList := by
  cases h with
  | sort => decide
  | @modified modifier body hmodifier hbody =>
      have hfree : ∀ modifier ∈ Trial.modifiers,
          modifier.toList.all (Token.isSeparator · = false) := by decide
      obtain ⟨hne, hbodyfree⟩ := Token.isWord_of_isPlain hbody.isPlain
      rw [String.toList_append]
      refine ⟨List.append_ne_nil_of_right_ne_nil _ hne, ?_⟩
      rw [List.forall_mem_append]
      exact ⟨by simpa using hfree modifier hmodifier, hbodyfree⟩

theorem IsBody.isToken (h : c.IsBody body) : c.IsToken body := by
  have htoken : c.IsToken ("" ++ body) := .modified (by decide) h
  rwa [String.empty_append] at htoken

theorem IsToken.isExpression (h : c.IsToken token) : c.IsExpression token [token] :=
  ⟨Token.scan_of_isWord h.isWord, List.forall_mem_singleton.mpr h⟩

theorem IsExpression.append {expression other : String} {tokens others : List String}
    (h : c.IsExpression expression tokens) (hother : c.IsExpression other others) :
    c.IsExpression (expression ++ ":" ++ other) (tokens ++ others) := by
  constructor
  · rw [Token.scan_append_gap_append (by decide) (by decide), h.scan_eq, hother.scan_eq]
  · exact List.forall_mem_append.mpr ⟨h.isToken, hother.isToken⟩

theorem IsExpression.append_modified {expression modifier : String} {tokens : List String}
    (h : c.IsExpression expression tokens) (hmodifier : modifier ∈ Trial.modifiers)
    (hbody : c.IsBody body) :
    c.IsExpression (expression ++ (":" ++ modifier) ++ body) (tokens ++ [modifier ++ body]) := by
  have happend := h.append (IsToken.modified hmodifier hbody).isExpression
  rwa [← String.append_assoc, @String.append_assoc expression] at happend

theorem IsExpression.append_sort {expression : String} {tokens : List String}
    (h : c.IsExpression expression tokens) :
    c.IsExpression (expression ++ (":" ++ Instruction.sortDirective))
      (tokens ++ [Instruction.sortDirective]) := by
  have happend := h.append IsToken.sort.isExpression
  rwa [String.append_assoc] at happend

theorem isExpression_intercalate {tokens : List String} (h : ∀ token ∈ tokens, c.IsToken token) :
    c.IsExpression (":".intercalate tokens) tokens :=
  ⟨Token.scan_intercalate_of_isWord fun token htoken => (h token htoken).isWord, h⟩

/-- Whatever a token asks to do, it asks it of a body. -/
theorem IsToken.isBody (h : c.IsToken token) {modifier : Modifier}
    (htoken : Instruction.ofToken token = .modify modifier body) : c.IsBody body := by
  cases h with
  | sort => exact absurd htoken nofun
  | modified hmodifier hother =>
      obtain ⟨kind, hkind⟩ := hother.exists_ofToken hmodifier
      rw [hkind] at htoken
      obtain ⟨-, rfl⟩ := Instruction.modify.inj htoken
      exact hother

theorem not_isToken_default : ¬ c.IsToken defaultToken := by
  intro h
  have hdefault : Instruction.ofToken defaultToken = .modify .append defaultToken := by decide
  exact absurd (h.isBody hdefault).isPlain (by decide)

theorem isExpression_longDefault (c : Catalog) : c.IsExpression longDefault defaultExpansion := by
  have hbody : ∀ word ∈ Keyword.table.map Prod.fst, c.IsBody word := fun word hword =>
    c.isBody_of_mem_known (Keyword.mem_known_iff.mpr (Or.inl hword))
  have hall : c.IsToken ("" ++ "ALL") := .modified (by decide) (hbody _ (by decide))
  have hcomplement : c.IsToken ("!" ++ "COMPLEMENTOFDEFAULT") :=
    .modified (by decide) (hbody _ (by decide))
  have hnull : c.IsToken ("!" ++ "eNULL") := .modified (by decide) (hbody _ (by decide))
  exact (hall.isExpression.append hcomplement.isExpression).append hnull.isExpression

end Catalog

namespace Interpreter

theorem effect_of_meaning {interpreter : Interpreter} {token body : String}
    {modifier : Modifier} {suites : List Suite}
    (htoken : Instruction.ofToken token = .modify modifier body)
    (hmeaning : interpreter.catalog.meaning body = .ok suites) :
    interpreter.effect token = .modify modifier suites :=
  effect_of_outcome_read (outcome_read_of_meaning htoken hmeaning)

theorem understands_of_isToken {interpreter : Interpreter} {token : String}
    (h : interpreter.catalog.IsToken token) : interpreter.understands token := by
  cases h with
  | sort => rfl
  | modified hmodifier hbody =>
      obtain ⟨kind, htoken⟩ := hbody.exists_ofToken hmodifier
      obtain ⟨suites, hmeaning⟩ := hbody.exists_meaning
      exact understands_of_outcome_read (outcome_read_of_meaning htoken hmeaning)

theorem outcome_evaluate_of_isExpression {interpreter : Interpreter} {expression : String}
    {tokens : List String} (h : interpreter.catalog.IsExpression expression tokens) :
    (interpreter.evaluate expression).outcome = .ok (interpreter.play .empty tokens).suites := by
  have hdefault : defaultToken ∉ tokens := fun hmem =>
    Catalog.not_isToken_default (h.isToken _ hmem)
  refine outcome_evaluate_eq_ok_iff.mpr ?_
  rw [h.scan_eq, spellOutDefault_of_not_mem hdefault]
  exact ⟨fun token htoken => understands_of_isToken (h.isToken token htoken), rfl⟩

end Interpreter

theorem Token.words_dropEndWhile {p : Char → Bool} (hp : ∀ c, p c → isSeparator c)
    (cs : List Char) : words (Text.dropEndWhile p cs) = words cs := by
  obtain ⟨gap, hsplit, hgap⟩ := Text.exists_dropEndWhile_append p cs
  conv => rhs; rw [hsplit, words_append_gap _ fun c hc => hp c (hgap c hc)]

namespace Trial

open Drawing

variable {σ : Type} (source : Source σ) {catalog : Catalog} {shape : Shape}

theorem yields_randomBody (hnames : catalog.names.names ≠ [])
    (hplain : ∀ name ∈ catalog.names.names, Token.isPlain name.toList) (shape : Shape) :
    (randomBody source catalog shape).Yields catalog.IsBody := by
  have hknown : Keyword.known ≠ [] :=
    List.ne_nil_of_mem (Keyword.mem_known_iff.mpr (Or.inl (by decide : "ALL" ∈ _)))
  have hsorted : Text.sorted catalog.names.names ≠ [] := by
    obtain ⟨name, hname⟩ := List.exists_mem_of_ne_nil _ hnames
    exact List.ne_nil_of_mem (Text.mem_sorted.mpr hname)
  refine (source.yields_happens _).bind fun named _ => ?_
  cases named with
  | true =>
      refine (source.yields_choose hsorted).mono fun name hname => ?_
      have hname := Text.mem_sorted.mp hname
      exact ⟨hplain name hname, Or.inl hname⟩
  | false =>
      refine (source.yields_happens _).bind fun combined _ => ?_
      cases combined with
      | true =>
          refine (source.yields_between (by decide)).bind fun count hcount => ?_
          refine ((source.yields_choose hknown).times _).bind fun words hwords => yields_pure ?_
          refine catalog.isBody_intercalate (List.ne_nil_of_length_pos ?_) hwords.2
          omega
      | false =>
          exact (source.yields_choose hknown).mono fun word hword =>
            catalog.isBody_of_mem_known hword

theorem yields_randomToken (hbody : (randomBody source catalog shape).Yields catalog.IsBody) :
    (randomToken source catalog shape).Yields catalog.IsToken := by
  refine (source.yields_happens _).bind fun sorts _ => ?_
  cases sorts with
  | true => exact yields_pure .sort
  | false =>
      refine (source.yields_choose (by decide)).bind fun modifier hmodifier => ?_
      exact hbody.bind fun body hbody => yields_pure (.modified hmodifier hbody)

theorem yields_randomTokens (hbody : (randomBody source catalog shape).Yields catalog.IsBody)
    (htokens : 1 ≤ shape.tokens) :
    (randomTokens source catalog shape).Yields fun tokens =>
      ∀ token ∈ tokens, catalog.IsToken token := by
  refine (source.yields_between htokens).bind fun count _ => ?_
  exact ((yields_randomToken source hbody).times _).mono fun tokens h => h.2

theorem yields_joinAll {tokens : List String} (h : ∀ token ∈ tokens, Token.IsWord token.toList) :
    (joinAll source tokens).Yields fun text => Token.scan text = tokens := by
  have hgaps : ∀ separator ∈ separators,
      separator.toList ≠ [] ∧ Token.IsGap separator.toList := by decide
  induction tokens with
  | nil => exact yields_pure rfl
  | cons token tokens ih =>
      obtain ⟨htoken, htokens⟩ := List.forall_mem_cons.mp h
      refine (source.yields_choose (by decide)).bind fun separator hseparator => ?_
      refine (ih htokens).bind fun rest hrest => yields_pure ?_
      obtain ⟨hne, hgap⟩ := hgaps separator hseparator
      rw [Token.scan_append_gap_append hgap hne, Token.scan_of_isWord htoken, hrest]
      rfl

theorem yields_join {tokens : List String} (h : ∀ token ∈ tokens, Token.IsWord token.toList) :
    (join source tokens).Yields fun expression => Token.scan expression = tokens := by
  refine (yields_joinAll source h).bind fun text htext => yields_pure ?_
  rw [Token.scan, String.toList_ofList, Token.words_dropEndWhile]
  · exact htext
  · intro c hc
    rw [Bool.or_eq_true, Bool.or_eq_true, beq_iff_eq, beq_iff_eq, beq_iff_eq] at hc
    rcases hc with (rfl | rfl) | rfl
    · decide
    · decide
    · decide

end Trial

end CipherString
