import CipherString.Keyword
import CipherString.Proofs.DefaultToken
import CipherString.Proofs.PairOrder

namespace CipherString

namespace Suite

/-- The suites of a list, the strongest first; suites of equal strength keep their order. -/
def ranked (suites : List Suite) : List Suite :=
  suites.mergeSort fun s t => decide (t.strength ≤ s.strength)

/-- A ranking has the suites of a list as often as the list, never a weaker one before a stronger
one, and those of one strength in the order of the list. -/
structure IsRanking (suites ranking : List Suite) : Prop where
  perm : ranking.Perm suites
  descending : ranking.Pairwise fun s t => t.strength ≤ s.strength
  stable : ∀ bits, ranking.filter (·.strength = bits) = suites.filter (·.strength = bits)

theorem filter_strength_ranked (suites : List Suite) (bits : Nat) :
    (ranked suites).filter (·.strength = bits) = suites.filter (·.strength = bits) := by
  rw [ranked, filter_mergeSort Selection.strength_trans Selection.strength_total]
  apply List.mergeSort_of_pairwise
  refine List.pairwise_of_forall_mem_list fun s hs t ht => ?_
  have hs := (List.mem_filter.mp hs).2
  have ht := (List.mem_filter.mp ht).2
  simp only [decide_eq_true_eq] at hs ht ⊢
  exact Nat.le_of_eq (ht.trans hs.symm)

theorem isRanking_ranked (suites : List Suite) : IsRanking suites (ranked suites) where
  perm := List.mergeSort_perm _ _
  descending := Selection.pairwise_chosen_sortByStrength ⟨suites, ∅⟩
  stable := filter_strength_ranked suites

theorem isRanking_iff {suites ranking : List Suite} :
    IsRanking suites ranking ↔ ranking = ranked suites := by
  constructor
  · intro h
    apply eq_of_filter_key_eq h.descending (isRanking_ranked suites).descending
    intro bits
    rw [h.stable, filter_strength_ranked]
  · rintro rfl
    exact isRanking_ranked suites

theorem ranked_ranked (suites : List Suite) : ranked (ranked suites) = ranked suites :=
  congrArg Selection.chosen (Selection.sortByStrength_sortByStrength ⟨suites, ∅⟩)

theorem IsRanking.pair_sublist {suites ranking : List Suite} {s t : Suite}
    (h : IsRanking suites ranking) (hs : s ∈ ranking) (ht : t ∈ ranking)
    (hstrength : t.strength < s.strength) : [s, t].Sublist ranking := by
  refine pair_sublist_of_pairwise h.descending hs ht ?_ (Nat.not_le_of_lt hstrength)
  rintro rfl
  exact Nat.lt_irrefl _ hstrength

section Classes

variable {s : Suite}

theorem le_strength_of_mem_high_or_medium (h : s.cipher ∈ Keyword.high ∨ s.cipher ∈ Keyword.medium) :
    112 ≤ s.strength := by
  have hbits : ∀ cipher ∈ Keyword.high ++ Keyword.medium, 112 ≤ (keyBits.lookup cipher).getD 0 := by
    decide
  exact hbits _ (List.mem_append.mpr h)

theorem strength_of_mem_low (h : s.cipher ∈ Keyword.low) : 0 < s.strength ∧ s.strength < 112 := by
  have hbits : ∀ cipher ∈ Keyword.low,
      0 < (keyBits.lookup cipher).getD 0 ∧ (keyBits.lookup cipher).getD 0 < 112 := by
    decide
  exact hbits _ h

theorem strength_of_isNull_or_unmapped (h : s.isNull ∨ keyBits.lookup s.cipher = none) :
    s.strength = 0 := by
  rw [strength]
  rcases h with hnull | hunmapped
  · rw [eq_of_beq hnull]
    rfl
  · rw [hunmapped, Option.getD_none]

end Classes

end Suite

theorem Selection.chosen_sortByStrength (state : Selection) :
    state.sortByStrength.chosen = Suite.ranked state.chosen := rfl

theorem spellOutDefault_append_sort (tokens : List String) :
    spellOutDefault (tokens ++ [Instruction.sortDirective]) =
      spellOutDefault tokens ++ [Instruction.sortDirective] := by
  rcases eq_or_ne tokens [] with rfl | hne
  · rfl
  · exact spellOutDefault_append hne [Instruction.sortDirective]

theorem Token.scan_append_sort (expression : String) :
    scan (expression ++ ":@STRENGTH") = scan expression ++ [Instruction.sortDirective] := by
  have hscan : scan ":@STRENGTH" = [Instruction.sortDirective] := by decide
  rw [scan_append (by rintro _ ⟨⟩; decide), hscan]

namespace Interpreter

variable {interpreter : Interpreter} {expression : String} {suites : List Suite}

theorem outcome_evaluate_append_sort (h : (interpreter.evaluate expression).outcome = .ok suites) :
    (interpreter.evaluate (expression ++ ":@STRENGTH")).outcome = .ok (Suite.ranked suites) := by
  obtain ⟨hunderstood, rfl⟩ := outcome_evaluate_eq_ok_iff.mp h
  have hsort : (interpreter.read Instruction.sortDirective).outcome = .ok .sort := rfl
  refine outcome_evaluate_eq_ok_iff.mpr ?_
  rw [Token.scan_append_sort, spellOutDefault_append_sort, play_concat,
    effect_of_outcome_read hsort]
  constructor
  · rw [List.forall_mem_append, List.forall_mem_singleton]
    exact ⟨hunderstood, understands_of_outcome_read hsort⟩
  · rw [((interpreter.coherent_play_empty _).act .sort).suites_eq, suites_play_empty]
    exact Selection.chosen_sortByStrength _

/-- The sort ranks what a selection holds, in the only way there is, and shuts nothing out. So the
directive behind an expression ranks its result, a second one does nothing more, and the strong and
medium suites stand before the weak ones, and these before all that do not encrypt or are not
known. -/
theorem sort_ranks :
    (∀ state : Selection, state.sortByStrength.banned = state.banned ∧
      ∀ ranking, Suite.IsRanking state.chosen ranking ↔ ranking = state.sortByStrength.chosen) ∧
    ∀ (interpreter : Interpreter) (expression : String) (suites : List Suite),
      (interpreter.evaluate expression).outcome = .ok suites →
      ∃ ranking, (interpreter.evaluate (expression ++ ":@STRENGTH")).outcome = .ok ranking ∧
        Suite.IsRanking suites ranking ∧
        (interpreter.evaluate (expression ++ ":@STRENGTH" ++ ":@STRENGTH")).outcome =
          .ok ranking ∧
        ∀ s ∈ ranking, ∀ t ∈ ranking,
          (s.cipher ∈ Keyword.high ∨ s.cipher ∈ Keyword.medium → t.cipher ∈ Keyword.low →
            [s, t].Sublist ranking) ∧
          (s.cipher ∈ Keyword.low → t.isNull ∨ Suite.keyBits.lookup t.cipher = none →
            [s, t].Sublist ranking) := by
  constructor
  · intro state
    exact ⟨rfl, fun ranking => Suite.isRanking_iff⟩
  · intro interpreter expression suites hevaluate
    have hranking := outcome_evaluate_append_sort hevaluate
    have hagain := outcome_evaluate_append_sort hranking
    rw [Suite.ranked_ranked] at hagain
    have hranked := Suite.isRanking_ranked suites
    refine ⟨Suite.ranked suites, hranking, hranked, hagain, ?_⟩
    intro s hs t ht
    constructor
    · intro hstrong hweak
      have hs112 := Suite.le_strength_of_mem_high_or_medium hstrong
      have ht112 := (Suite.strength_of_mem_low hweak).2
      exact hranked.pair_sublist hs ht (Nat.lt_of_lt_of_le ht112 hs112)
    · intro hweak hnone
      have hspos := (Suite.strength_of_mem_low hweak).1
      have htzero := Suite.strength_of_isNull_or_unmapped hnone
      exact hranked.pair_sublist hs ht (htzero ▸ hspos)

/-- One suite of each grade: weak, not encrypting, strong. -/
def graded : Interpreter where
  catalog := .ofLists
    [⟨"rsa", "des_cbc", "sha", "default_prf"⟩, ⟨"rsa", "null", "sha", "default_prf"⟩,
      ⟨"rsa", "aes_128_cbc", "sha", "default_prf"⟩] [] .empty

theorem sort_ranks_of_graded :
    (graded.evaluate "kRSA").outcome =
        .ok [⟨"rsa", "des_cbc", "sha", "default_prf"⟩, ⟨"rsa", "null", "sha", "default_prf"⟩,
          ⟨"rsa", "aes_128_cbc", "sha", "default_prf"⟩] ∧
      ∃ ranking, (graded.evaluate ("kRSA" ++ ":@STRENGTH")).outcome = .ok ranking ∧
        [⟨"rsa", "aes_128_cbc", "sha", "default_prf"⟩,
          ⟨"rsa", "des_cbc", "sha", "default_prf"⟩].Sublist ranking ∧
        [⟨"rsa", "des_cbc", "sha", "default_prf"⟩,
          ⟨"rsa", "null", "sha", "default_prf"⟩].Sublist ranking := by
  have hevaluate : (graded.evaluate "kRSA").outcome =
      .ok [⟨"rsa", "des_cbc", "sha", "default_prf"⟩, ⟨"rsa", "null", "sha", "default_prf"⟩,
        ⟨"rsa", "aes_128_cbc", "sha", "default_prf"⟩] := rfl
  obtain ⟨ranking, houtcome, hranking, -, hgrades⟩ := sort_ranks.2 graded _ _ hevaluate
  have hweak : ⟨"rsa", "des_cbc", "sha", "default_prf"⟩ ∈ ranking :=
    hranking.perm.mem_iff.mpr (by decide)
  have hnull : ⟨"rsa", "null", "sha", "default_prf"⟩ ∈ ranking :=
    hranking.perm.mem_iff.mpr (by decide)
  have hstrong : ⟨"rsa", "aes_128_cbc", "sha", "default_prf"⟩ ∈ ranking :=
    hranking.perm.mem_iff.mpr (by decide)
  exact ⟨hevaluate, ranking, houtcome,
    (hgrades _ hstrong _ hweak).1 (Or.inl (by decide)) (by decide),
    (hgrades _ hweak _ hnull).2 (by decide) (Or.inl (by decide))⟩

end Interpreter

end CipherString
