import CipherString.Proofs.Denotation
import CipherString.Proofs.Language

namespace CipherString

namespace Keyword

/-- The keyword that a word stands for: itself, unless it is another word for one. -/
def unaliased (word : String) : String :=
  (aliases.lookup word).getD word

theorem criterion?_of_mem_aliases :
    ∀ entry ∈ aliases, criterion? entry.2 = criterion? entry.1 := by
  decide

theorem criterion?_unaliased (word : String) : criterion? (unaliased word) = criterion? word := by
  rw [unaliased]
  cases halias : aliases.lookup word with
  | none => rfl
  | some keyword => exact criterion?_of_mem_aliases _ (mem_of_lookup_eq_some halias)

theorem criterion?_of_mem_unsupported {word : String} (h : word ∈ unsupported) :
    criterion? word = some .nothing :=
  if_pos h

end Keyword

theorem Token.pieces_append_plus (word other : String) :
    pieces (word ++ "+" ++ other) = pieces word ++ pieces other := by
  have hplus : (word ++ "+" ++ other).toList = word.toList ++ '+' :: other.toList := by
    rw [String.toList_append, String.toList_append, List.append_assoc]
    rfl
  rw [pieces, hplus, splitAtPlus_append_plus, List.map_append]
  rfl

/-- To keep what meets two conditions is to keep, of what meets one, what is among that which meets
the other. -/
theorem filter_and_eq_filter_mem {α : Type} [DecidableEq α] (p q : α → Bool) (l : List α) :
    l.filter (fun a => p a && q a) = (l.filter p).filter (· ∈ l.filter q) := by
  rw [List.filter_filter]
  apply List.filter_congr
  intro a ha
  have hmem : decide (a ∈ l.filter q) = q a := by simp [ha]
  rw [hmem, Bool.and_comm]

namespace Catalog

/-- The word is read as a combination of keywords: it is no name, and it has no unknown piece. -/
structure IsCombination (c : Catalog) (word : String) : Prop where
  unnamed : word ∉ c.names.names
  known : ∀ piece ∈ Token.pieces word, piece ∈ Keyword.known

variable {c : Catalog} {word other : String} {s : Suite}

theorem IsCombination.append_plus (hword : c.IsCombination word) (hother : c.IsCombination other)
    (hname : word ++ "+" ++ other ∉ c.names.names) :
    c.IsCombination (word ++ "+" ++ other) := by
  refine ⟨hname, ?_⟩
  rw [Token.pieces_append_plus, List.forall_mem_append]
  exact ⟨hword.known, hother.known⟩

/-- A combination is understood under any policy and reports nothing. -/
theorem IsCombination.suitesOf_eq (h : c.IsCombination word) (unknown : UnknownToken) :
    c.suitesOf unknown word = pure (c.suites.toList.filter (c.meets word)) := by
  obtain ⟨suites, hmeaning⟩ := exists_meaning_of_denotes (Or.inr h.known)
  have houtcome : (c.suitesOf unknown word).outcome = .ok suites :=
    outcome_suitesOf_of_meaning hmeaning
  rw [← suites_eq_filter_meets (suiteNamed_eq_none_iff.mpr h.unnamed) houtcome, suitesOf, hmeaning]

theorem meets_append_plus (c : Catalog) (word other : String) (s : Suite) :
    c.meets (word ++ "+" ++ other) s = (c.meets word s && c.meets other s) := by
  rw [meets, Token.pieces_append_plus, List.all_append]
  rfl

theorem meets_iff_forall_unaliased :
    c.meets word s ↔ ∀ keyword ∈ (Token.pieces word).map Keyword.unaliased,
      (Keyword.criterion? keyword).any (·.holds c.defaults.toList s) := by
  rw [meets, List.all_eq_true, List.forall_mem_map]
  simp only [Keyword.criterion?_unaliased]

theorem meets_congr (h : ∀ keyword, keyword ∈ (Token.pieces word).map Keyword.unaliased ↔
    keyword ∈ (Token.pieces other).map Keyword.unaliased) : c.meets word = c.meets other := by
  funext s
  rw [Bool.eq_iff_iff, meets_iff_forall_unaliased, meets_iff_forall_unaliased]
  simp only [h]

theorem meets_of_mem_unsupported {piece : String} (hpiece : piece ∈ Token.pieces word)
    (hunsupported : piece ∈ Keyword.unsupported) : c.meets word s = false := by
  rw [meets, List.all_eq_false]
  refine ⟨piece, hpiece, ?_⟩
  rw [Keyword.criterion?_of_mem_unsupported hunsupported]
  exact Bool.false_ne_true

theorem IsCombination.suitesOf_append_plus (hword : c.IsCombination word)
    (hother : c.IsCombination other) (hname : word ++ "+" ++ other ∉ c.names.names)
    (unknown : UnknownToken) :
    c.suitesOf unknown (word ++ "+" ++ other) =
      pure (c.suites.toList.filter fun s => c.meets word s && c.meets other s) := by
  have hmeets : c.meets (word ++ "+" ++ other) = fun s => c.meets word s && c.meets other s := by
    funext s
    exact c.meets_append_plus word other s
  rw [(hword.append_plus hother hname).suitesOf_eq, hmeets]

theorem IsCombination.suitesOf_congr (hword : c.IsCombination word)
    (hother : c.IsCombination other)
    (h : ∀ keyword, keyword ∈ (Token.pieces word).map Keyword.unaliased ↔
      keyword ∈ (Token.pieces other).map Keyword.unaliased) (unknown : UnknownToken) :
    c.suitesOf unknown word = c.suitesOf unknown other := by
  rw [hword.suitesOf_eq, hother.suitesOf_eq, meets_congr h]

theorem IsCombination.suitesOf_of_unsupported (hword : c.IsCombination word) {piece : String}
    (hpiece : piece ∈ Token.pieces word) (hunsupported : piece ∈ Keyword.unsupported)
    (unknown : UnknownToken) : c.suitesOf unknown word = pure [] := by
  have hnone : c.suites.toList.filter (c.meets word) = [] := by
    rw [List.filter_eq_nil_iff]
    intro s _
    rw [meets_of_mem_unsupported hpiece hunsupported]
    exact Bool.false_ne_true
  rw [hword.suitesOf_eq, hnone]

/-- Two combinations with a plus sign between them denote, in the order of the catalog, what both of
them denote. So the order of the pieces of a combination, their repetitions and the words used for
one keyword make no difference, and one unsupported piece leaves nothing. -/
theorem plus_intersects (c : Catalog) (unknown : UnknownToken) :
    (∀ word other, c.IsCombination word → c.IsCombination other →
      word ++ "+" ++ other ∉ c.names.names →
      ∃ left right both, c.suitesOf unknown word = pure left ∧
        c.suitesOf unknown other = pure right ∧
        c.suitesOf unknown (word ++ "+" ++ other) = pure both ∧
        both = left.filter (· ∈ right) ∧ both = right.filter (· ∈ left) ∧
        both.Sublist c.suites.toList) ∧
    (∀ word other, c.IsCombination word → c.IsCombination other →
      (∀ keyword, keyword ∈ (Token.pieces word).map Keyword.unaliased ↔
        keyword ∈ (Token.pieces other).map Keyword.unaliased) →
      ∃ suites, c.suitesOf unknown word = pure suites ∧ c.suitesOf unknown other = pure suites) ∧
    ∀ word, c.IsCombination word →
      (∃ piece ∈ Token.pieces word, piece ∈ Keyword.unsupported) →
      c.suitesOf unknown word = pure [] := by
  refine ⟨?_, ?_, ?_⟩
  · intro word other hword hother hname
    refine ⟨_, _, _, hword.suitesOf_eq unknown, hother.suitesOf_eq unknown,
      hword.suitesOf_append_plus hother hname unknown, ?_, ?_, List.filter_sublist⟩
    · exact filter_and_eq_filter_mem _ _ _
    · simp only [Bool.and_comm (c.meets word _)]
      exact filter_and_eq_filter_mem _ _ _
  · intro word other hword hother hkeywords
    exact ⟨_, hword.suitesOf_eq unknown,
      (hword.suitesOf_congr hother hkeywords unknown).symm.trans (hword.suitesOf_eq unknown)⟩
  · rintro word hword ⟨piece, hpiece, hunsupported⟩
    exact hword.suitesOf_of_unsupported hpiece hunsupported unknown

/-- The one name of the sample is `NULL-MD5`, so any other word of known keywords is a combination
there. -/
theorem isCombination_sample {word : String} (hname : word ≠ "NULL-MD5")
    (hknown : ∀ piece ∈ Token.pieces word, (Keyword.criterion? piece).isSome) :
    Interpreter.sample.catalog.IsCombination word := by
  have hnames : Interpreter.sample.catalog.names.names = ["NULL-MD5"] := rfl
  refine ⟨?_, fun piece hpiece => Keyword.isSome_criterion?_iff.mp (hknown piece hpiece)⟩
  rw [hnames, List.mem_singleton]
  exact hname

theorem plus_intersects_of_NULL :
    (∃ left right both, Interpreter.sample.catalog.suitesOf .strict "kRSA" = pure left ∧
      Interpreter.sample.catalog.suitesOf .strict "NULL+SHA" = pure right ∧
      Interpreter.sample.catalog.suitesOf .strict ("kRSA" ++ "+" ++ "NULL+SHA") = pure both ∧
      both = left.filter (· ∈ right) ∧ both = right.filter (· ∈ left) ∧
      both.Sublist Interpreter.sample.catalog.suites.toList ∧
      left = [⟨"rsa", "aes_128_cbc", "sha", "default_prf"⟩,
        ⟨"rsa", "null", "sha", "default_prf"⟩] ∧
      right = [⟨"rsa", "null", "sha", "default_prf"⟩]) ∧
    (∃ suites, Interpreter.sample.catalog.suitesOf .strict "SHA1+eNULL+RSA" = pure suites ∧
      Interpreter.sample.catalog.suitesOf .strict "kRSA+NULL+SHA+kRSA" = pure suites ∧
      suites = [⟨"rsa", "null", "sha", "default_prf"⟩]) ∧
    Interpreter.sample.catalog.suitesOf .strict "kRSA+SEED" = pure [] := by
  obtain ⟨hplus, hsame, hunsupported⟩ := plus_intersects Interpreter.sample.catalog .strict
  refine ⟨?_, ?_, ?_⟩
  · obtain ⟨left, right, both, hleft, hright, hboth, hfilter, hfilter', hsublist⟩ :=
      hplus "kRSA" "NULL+SHA" (isCombination_sample (by decide) (by decide))
        (isCombination_sample (by decide) (by decide)) (by decide)
    refine ⟨left, right, both, hleft, hright, hboth, hfilter, hfilter', hsublist, ?_, ?_⟩
    · exact (Except.ok.inj (congrArg Logged.outcome hleft)).symm
    · exact (Except.ok.inj (congrArg Logged.outcome hright)).symm
  · have hfirst : (Token.pieces "SHA1+eNULL+RSA").map Keyword.unaliased =
        ["SHA1", "eNULL", "kRSA"] := by decide
    have hsecond : (Token.pieces "kRSA+NULL+SHA+kRSA").map Keyword.unaliased =
        ["kRSA", "eNULL", "SHA1", "kRSA"] := by decide
    have hkeywords : ∀ keyword,
        keyword ∈ (Token.pieces "SHA1+eNULL+RSA").map Keyword.unaliased ↔
          keyword ∈ (Token.pieces "kRSA+NULL+SHA+kRSA").map Keyword.unaliased := by
      intro keyword
      rw [hfirst, hsecond]
      simp only [List.mem_cons, List.not_mem_nil]
      grind
    obtain ⟨suites, hsuites, hother⟩ := hsame "SHA1+eNULL+RSA" "kRSA+NULL+SHA+kRSA"
      (isCombination_sample (by decide) (by decide))
      (isCombination_sample (by decide) (by decide)) hkeywords
    exact ⟨suites, hsuites, hother, (Except.ok.inj (congrArg Logged.outcome hsuites)).symm⟩
  · exact hunsupported "kRSA+SEED" (isCombination_sample (by decide) (by decide))
      ⟨"SEED", by decide, by decide⟩

end Catalog

end CipherString
