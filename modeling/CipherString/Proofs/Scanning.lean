import CipherString.Token

namespace CipherString

namespace Token

def IsWord (word : List Char) : Prop :=
  word ≠ [] ∧ ∀ c ∈ word, isSeparator c = false

def IsGap (gap : List Char) : Prop :=
  ∀ c ∈ gap, isSeparator c

instance (word : List Char) : Decidable (IsWord word) :=
  decidable_of_iff (word ≠ [] ∧ word.all (!isSeparator ·)) (by simp [IsWord])

instance (gap : List Char) : Decidable (IsGap gap) :=
  decidable_of_iff (gap.all isSeparator) List.all_eq_true

/-- The code points of white space, one by one. -/
def blankCodes : List Nat :=
  [0x9, 0xa, 0xb, 0xc, 0xd, 0x1c, 0x1d, 0x1e, 0x1f, 0x20, 0x85, 0xa0, 0x1680, 0x2000, 0x2001,
    0x2002, 0x2003, 0x2004, 0x2005, 0x2006, 0x2007, 0x2008, 0x2009, 0x200a, 0x2028, 0x2029, 0x202f,
    0x205f, 0x3000]

theorem isSeparator_iff {c : Char} :
    isSeparator c ↔ c = ':' ∨ c = ',' ∨ c.toNat ∈ blankCodes := by
  simp only [isSeparator, Text.isBlank, blankCodes, Bool.or_eq_true, Bool.and_eq_true,
    decide_eq_true_eq, beq_iff_eq, List.mem_cons, List.not_mem_nil, or_false, or_assoc]
  refine or_congr Iff.rfl (or_congr Iff.rfl ?_)
  omega

section Words

variable {c : Char} {cs gap rest word : List Char}

theorem words_cons_separator (hc : isSeparator c) (cs : List Char) :
    words (c :: cs) = words cs :=
  words_append_separator hc [] cs

theorem words_gap_append (hgap : IsGap gap) (cs : List Char) : words (gap ++ cs) = words cs := by
  induction gap with
  | nil => rfl
  | cons c gap ih =>
      obtain ⟨hc, hgap⟩ := List.forall_mem_cons.mp hgap
      rw [List.cons_append, words_cons_separator hc]
      exact ih hgap

/-- Words do not reach across a separator, so those of a text go on unchanged behind it. -/
theorem words_append (cs : List Char) (hrest : ∀ c ∈ rest.head?, isSeparator c) :
    words (cs ++ rest) = words cs ++ words rest := by
  cases rest with
  | nil =>
      rw [List.append_nil]
      exact (List.append_nil _).symm
  | cons c rest =>
      have hc : isSeparator c := hrest c rfl
      rw [words_append_separator hc, words_cons_separator hc]

theorem words_append_gap (cs : List Char) (hgap : IsGap gap) : words (cs ++ gap) = words cs := by
  have hnone : words gap = [] := by
    rw [← List.append_nil gap, words_gap_append hgap]
    rfl
  rw [words_append cs fun c hc => hgap c (List.mem_of_mem_head? hc), hnone, List.append_nil]

theorem words_of_isWord (hword : IsWord word) : words word = [word] := by
  rw [words_of_forall_not_isSeparator hword.2, consWord, if_neg (by simpa using hword.1)]

theorem words_gap_append_word (hgap : IsGap gap) (hword : IsWord word)
    (hrest : ∀ c ∈ rest.head?, isSeparator c) :
    words (gap ++ word ++ rest) = word :: words rest := by
  rw [words_append _ hrest, words_gap_append hgap, words_of_isWord hword]
  rfl

/-- Induction on a text by its first separator: what comes before it is free of separators. -/
theorem separator_induction {motive : List Char → Prop}
    (free : ∀ cs, (∀ c ∈ cs, isSeparator c = false) → motive cs)
    (split : ∀ cs c rest, (∀ c ∈ cs, isSeparator c = false) → isSeparator c → motive rest →
      motive (cs ++ c :: rest))
    (cs : List Char) : motive cs := by
  have key : ∀ front, (∀ c ∈ front, isSeparator c = false) → motive (front ++ cs) := by
    induction cs with
    | nil =>
        intro front hfront
        rw [List.append_nil]
        exact free front hfront
    | cons c cs ih =>
        intro front hfront
        cases hc : isSeparator c with
        | true => exact split front c cs hfront hc (ih [] (by simp))
        | false =>
            rw [List.append_cons]
            apply ih
            intro d hd
            rcases List.mem_append.mp hd with hd | hd
            · exact hfront d hd
            · rwa [List.mem_singleton.mp hd]
  exact key [] (by simp)

theorem isWord_of_mem_words_of_free (hcs : ∀ c ∈ cs, isSeparator c = false)
    (hword : word ∈ words cs) : IsWord word := by
  rw [words_of_forall_not_isSeparator hcs, consWord] at hword
  split at hword
  · exact absurd hword List.not_mem_nil
  · next hne =>
      rw [List.mem_singleton.mp hword]
      exact ⟨by simpa using hne, hcs⟩

theorem isWord_of_mem_words (hword : word ∈ words cs) : IsWord word := by
  induction cs using separator_induction with
  | free cs hcs => exact isWord_of_mem_words_of_free hcs hword
  | split cs c rest hcs hc ih =>
      rw [words_append_separator hc, List.mem_append] at hword
      rcases hword with hword | hword
      · exact isWord_of_mem_words_of_free hcs hword
      · exact ih hword

/-- Only the separators are lost. -/
theorem flatten_words (cs : List Char) : (words cs).flatten = cs.filter (!isSeparator ·) := by
  have hfree : ∀ cs, (∀ c ∈ cs, isSeparator c = false) →
      (words cs).flatten = cs.filter (!isSeparator ·) := by
    intro cs hcs
    rw [words_of_forall_not_isSeparator hcs, List.filter_eq_self.mpr (by simpa using hcs)]
    cases cs with
    | nil => rfl
    | cons c cs => exact List.append_nil _
  induction cs using separator_induction with
  | free cs hcs => exact hfree cs hcs
  | split cs c rest hcs hc ih =>
      rw [words_append_separator hc, List.flatten_append, hfree cs hcs, ih, List.filter_append,
        List.filter_cons_of_neg (by simp [hc])]

end Words

section Runs

/-- Whether there is no character of a word at a place: a separator is there, or the text has
ended. -/
def breaksAt (cs : List Char) (k : Nat) : Bool :=
  (cs[k]?).all isSeparator

/-- From place `i` up to and without place `j` there is no separator, and this cannot be said of any
longer stretch. -/
structure IsRun (cs : List Char) (i j : Nat) : Prop where
  lt : i < j
  free : ∀ k, i ≤ k → k < j → breaksAt cs k = false
  ends : breaksAt cs j
  starts : ∀ k, k + 1 = i → breaksAt cs k

def stretch (cs : List Char) (span : Nat × Nat) : List Char :=
  (cs.drop span.1).take (span.2 - span.1)

variable {c : Char} {cs rest : List Char} {i j k : Nat}

theorem breaksAt_of_length_le (h : cs.length ≤ k) : breaksAt cs k := by
  rw [breaksAt, List.getElem?_eq_none h]
  rfl

theorem breaksAt_eq_false (hcs : ∀ c ∈ cs, isSeparator c = false) (h : k < cs.length) :
    breaksAt cs k = false := by
  rw [breaksAt, List.getElem?_eq_getElem h]
  exact hcs _ (List.getElem_mem h)

theorem breaksAt_append_separator (hc : isSeparator c) (h : k ≤ cs.length) :
    breaksAt (cs ++ c :: rest) k = breaksAt cs k := by
  rcases Nat.lt_or_eq_of_le h with h | rfl
  · rw [breaksAt, breaksAt, List.getElem?_append_left h]
  · rw [breaksAt_of_length_le (Nat.le_refl _), breaksAt]
    simpa using hc

theorem breaksAt_append_add :
    breaksAt (cs ++ c :: rest) (cs.length + 1 + k) = breaksAt rest k := by
  rw [breaksAt, breaksAt, List.getElem?_append_right (by omega)]
  have hplace : cs.length + 1 + k - cs.length = k + 1 := by omega
  rw [hplace, List.getElem?_cons_succ]

theorem IsRun.le_length (h : IsRun cs i j) : j ≤ cs.length := by
  have hlt := h.lt
  refine Nat.le_of_not_lt fun hlength => ?_
  have hfree := h.free (j - 1) (by omega) (by omega)
  rw [breaksAt_of_length_le (by omega)] at hfree
  exact absurd hfree nofun

theorem IsRun.congr {other : List Char} (h : IsRun cs i j)
    (hbreaks : ∀ k, k ≤ j → breaksAt other k = breaksAt cs k) : IsRun other i j := by
  have hlt := h.lt
  refine ⟨hlt, ?_, ?_, ?_⟩
  · intro k hik hkj
    rw [hbreaks k (by omega)]
    exact h.free k hik hkj
  · rw [hbreaks j (Nat.le_refl j)]
    exact h.ends
  · intro k hki
    rw [hbreaks k (by omega)]
    exact h.starts k hki

theorem isRun_of_free_iff (hcs : ∀ c ∈ cs, isSeparator c = false) :
    IsRun cs i j ↔ cs ≠ [] ∧ i = 0 ∧ j = cs.length := by
  constructor
  · intro h
    have hlt := h.lt
    have hle := h.le_length
    have hstart : i = 0 := by
      rcases i with _ | k
      · rfl
      · have hbreak := h.starts k rfl
        rw [breaksAt_eq_false hcs (by omega)] at hbreak
        exact absurd hbreak nofun
    have hend : cs.length ≤ j := by
      refine Nat.le_of_not_lt fun hlength => ?_
      have hbreak := h.ends
      rw [breaksAt_eq_false hcs hlength] at hbreak
      exact absurd hbreak nofun
    exact ⟨List.ne_nil_of_length_pos (by omega), hstart, by omega⟩
  · rintro ⟨hne, rfl, rfl⟩
    refine ⟨List.length_pos_iff.mpr hne, ?_, breaksAt_of_length_le (Nat.le_refl _), nofun⟩
    intro k _ hk
    exact breaksAt_eq_false hcs hk

/-- The runs of a text are those before a separator and, further on, those behind it. -/
theorem isRun_append_separator_iff (hc : isSeparator c) :
    IsRun (cs ++ c :: rest) i j ↔
      IsRun cs i j ∨
        ∃ m n, i = cs.length + 1 + m ∧ j = cs.length + 1 + n ∧ IsRun rest m n := by
  have hbreak : breaksAt (cs ++ c :: rest) cs.length := by
    rw [breaksAt_append_separator hc (Nat.le_refl _)]
    exact breaksAt_of_length_le (Nat.le_refl _)
  constructor
  · intro h
    have hlt := h.lt
    rcases Nat.lt_or_ge cs.length i with hi | hi
    · right
      obtain ⟨m, rfl⟩ := Nat.exists_eq_add_of_le hi
      obtain ⟨n, rfl⟩ := Nat.exists_eq_add_of_le (Nat.lt_trans hi hlt)
      refine ⟨m, n, rfl, rfl, by omega, ?_, ?_, ?_⟩
      · intro k hmk hkn
        rw [← breaksAt_append_add]
        exact h.free _ (by omega) (by omega)
      · rw [← breaksAt_append_add]
        exact h.ends
      · intro k hkm
        rw [← breaksAt_append_add]
        exact h.starts _ (by omega)
    · left
      have hj : j ≤ cs.length := by
        refine Nat.le_of_not_lt fun hj => ?_
        rw [h.free cs.length hi hj] at hbreak
        exact absurd hbreak nofun
      exact h.congr fun k hk => (breaksAt_append_separator hc (by omega)).symm
  · rintro (h | ⟨m, n, rfl, rfl, h⟩)
    · have hle := h.le_length
      exact h.congr fun k hk => breaksAt_append_separator hc (by omega)
    · have hlt := h.lt
      refine ⟨by omega, ?_, ?_, ?_⟩
      · intro k hmk hkn
        obtain ⟨l, rfl⟩ := Nat.exists_eq_add_of_le (Nat.le_trans (Nat.le_add_right _ _) hmk)
        rw [breaksAt_append_add]
        exact h.free l (by omega) (by omega)
      · rw [breaksAt_append_add]
        exact h.ends
      · intro k hkm
        rcases Nat.lt_or_ge cs.length k with hk | hk
        · obtain ⟨l, rfl⟩ := Nat.exists_eq_add_of_le hk
          show breaksAt (cs ++ c :: rest) (cs.length + 1 + l)
          rw [breaksAt_append_add]
          exact h.starts l (by omega)
        · obtain rfl : k = cs.length := by omega
          exact hbreak

theorem IsRun.stretch_append (h : IsRun cs i j) (rest : List Char) :
    stretch (cs ++ rest) (i, j) = stretch cs (i, j) := by
  have hlt := h.lt
  have hle := h.le_length
  rw [stretch, stretch, List.drop_append_of_le_length (by omega),
    List.take_append_of_le_length (by rw [List.length_drop]; omega)]

theorem stretch_append_add (cs : List Char) (c : Char) (rest : List Char) (i j : Nat) :
    stretch (cs ++ c :: rest) (cs.length + 1 + i, cs.length + 1 + j) = stretch rest (i, j) := by
  have hdrop : (cs ++ c :: rest).drop (cs.length + 1 + i) = rest.drop i := by
    rw [Nat.add_assoc, ← List.drop_drop, List.drop_left, Nat.add_comm, List.drop_succ_cons]
  have hlength : cs.length + 1 + j - (cs.length + 1 + i) = j - i := by omega
  rw [stretch, stretch, hdrop, hlength]

/-- The runs of a text, from the front to the end. -/
def Spans (cs : List Char) (spans : List (Nat × Nat)) : Prop :=
  spans.Pairwise (fun span later => span.2 < later.1) ∧
    ∀ i j, (i, j) ∈ spans ↔ IsRun cs i j

theorem exists_spans_of_free (hcs : ∀ c ∈ cs, isSeparator c = false) :
    ∃ spans, Spans cs spans ∧ words cs = spans.map (stretch cs) := by
  cases cs with
  | nil =>
      refine ⟨[], ⟨List.Pairwise.nil, ?_⟩, rfl⟩
      intro i j
      rw [isRun_of_free_iff hcs]
      simp
  | cons c cs =>
      refine ⟨[(0, (c :: cs).length)], ⟨List.pairwise_singleton _ _, ?_⟩, ?_⟩
      · intro i j
        rw [isRun_of_free_iff hcs, List.mem_singleton, Prod.mk.injEq]
        simp
      · rw [words_of_isWord ⟨List.cons_ne_nil _ _, hcs⟩, List.map_singleton]
        simp [stretch]

theorem exists_spans (cs : List Char) :
    ∃ spans, Spans cs spans ∧ words cs = spans.map (stretch cs) := by
  induction cs using separator_induction with
  | free cs hcs => exact exists_spans_of_free hcs
  | split cs c rest hcs hc ih =>
      obtain ⟨front, ⟨hfront, hfrontmem⟩, hfrontwords⟩ := exists_spans_of_free hcs
      obtain ⟨back, ⟨hback, hbackmem⟩, hbackwords⟩ := ih
      let shift (span : Nat × Nat) : Nat × Nat :=
        (cs.length + 1 + span.1, cs.length + 1 + span.2)
      refine ⟨front ++ back.map shift, ⟨?_, ?_⟩, ?_⟩
      · refine List.pairwise_append.mpr ⟨hfront, ?_, ?_⟩
        · refine List.pairwise_map.mpr (hback.imp ?_)
          intro span later h
          exact Nat.add_lt_add_left h _
        · intro span hspan later hlater
          obtain ⟨moved, -, rfl⟩ := List.mem_map.mp hlater
          have hle := ((hfrontmem _ _).mp hspan).le_length
          show span.2 < cs.length + 1 + moved.1
          omega
      · intro i j
        rw [isRun_append_separator_iff hc, List.mem_append, hfrontmem, List.mem_map]
        refine or_congr Iff.rfl ?_
        constructor
        · rintro ⟨⟨m, n⟩, hmem, heq⟩
          obtain ⟨rfl, rfl⟩ := Prod.mk.inj heq
          exact ⟨m, n, rfl, rfl, (hbackmem m n).mp hmem⟩
        · rintro ⟨m, n, rfl, rfl, h⟩
          exact ⟨(m, n), (hbackmem m n).mpr h, rfl⟩
      · rw [words_append_separator hc, hfrontwords, hbackwords, List.map_append, List.map_map]
        congr 1
        · refine List.map_congr_left fun span hspan => ?_
          exact (((hfrontmem _ _).mp hspan).stretch_append (c :: rest)).symm
        · refine List.map_congr_left fun span _ => ?_
          exact (stretch_append_add cs c rest span.1 span.2).symm

end Runs

section Assemble

/-- A text of words, each with a gap in front of it, and of a gap at the end. -/
def assemble : List (String × String) → String → String
  | [], trail => trail
  | (gap, word) :: pieces, trail => gap ++ word ++ assemble pieces trail

/-- What makes words stay apart: gaps and words are what they are called, and only in front of the
first word and at the end a gap may be empty. -/
structure SetApart (pieces : List (String × String)) (trail : String) : Prop where
  isGap : ∀ piece ∈ pieces, IsGap piece.1.toList
  isWord : ∀ piece ∈ pieces, IsWord piece.2.toList
  apart : ∀ piece ∈ pieces.tail, piece.1 ≠ ""
  trail : IsGap trail.toList

variable {pieces : List (String × String)} {trail : String}

theorem SetApart.tail {piece : String × String} (h : SetApart (piece :: pieces) trail) :
    SetApart pieces trail where
  isGap other hother := h.isGap other (List.mem_cons_of_mem piece hother)
  isWord other hother := h.isWord other (List.mem_cons_of_mem piece hother)
  apart other hother := h.apart other (List.mem_of_mem_tail hother)
  trail := h.trail

theorem SetApart.isSeparator_of_mem_head? (h : SetApart pieces trail)
    (hne : ∀ piece ∈ pieces, piece.1 ≠ "") :
    ∀ c ∈ (assemble pieces trail).toList.head?, isSeparator c := by
  intro c hc
  cases pieces with
  | nil => exact h.trail c (List.mem_of_mem_head? hc)
  | cons piece pieces =>
      have hgap : piece.1.toList ≠ [] := by
        simpa using hne piece List.mem_cons_self
      obtain ⟨d, gap, hgap⟩ := List.exists_cons_of_ne_nil hgap
      rw [assemble, String.toList_append, String.toList_append, hgap, List.append_assoc,
        List.cons_append, List.head?_cons] at hc
      obtain rfl := Option.some.inj hc
      exact h.isGap piece List.mem_cons_self d (by simp [hgap])

theorem scan_assemble (h : SetApart pieces trail) :
    scan (assemble pieces trail) = pieces.map Prod.snd := by
  have key : words (assemble pieces trail).toList = pieces.map (·.2.toList) := by
    induction pieces with
    | nil =>
        rw [assemble, ← List.append_nil trail.toList, words_gap_append h.trail]
        rfl
    | cons piece pieces ih =>
        have hhead := h.tail.isSeparator_of_mem_head? h.apart
        rw [assemble, String.toList_append, String.toList_append,
          words_gap_append_word (h.isGap piece List.mem_cons_self)
            (h.isWord piece List.mem_cons_self) hhead, ih h.tail, List.map_cons]
  rw [scan, key, List.map_map]
  simp [Function.comp_def]

end Assemble

theorem scan_append {rest : String} (hrest : ∀ c ∈ rest.toList.head?, isSeparator c) (s : String) :
    scan (s ++ rest) = scan s ++ scan rest := by
  rw [scan, String.toList_append, words_append _ hrest, List.map_append]
  rfl

theorem scan_gap_append {gap : String} (hgap : IsGap gap.toList) (s : String) :
    scan (gap ++ s) = scan s := by
  rw [scan, String.toList_append, words_gap_append hgap]
  rfl

theorem scan_of_isWord {s : String} (hs : IsWord s.toList) : scan s = [s] := by
  rw [scan, words_of_isWord hs, List.map_singleton, String.ofList_toList]

theorem scan_append_gap_append {gap : String} (hgap : IsGap gap.toList) (hne : gap.toList ≠ [])
    (a b : String) : scan (a ++ gap ++ b) = scan a ++ scan b := by
  have hhead : ∀ c ∈ (gap ++ b).toList.head?, isSeparator c := by
    obtain ⟨c, rest, hcons⟩ := List.exists_cons_of_ne_nil hne
    rw [String.toList_append, hcons, List.cons_append, List.head?_cons]
    rintro _ ⟨⟩
    exact hgap c (by simp [hcons])
  rw [String.append_assoc, scan_append hhead, scan_gap_append hgap]

theorem scan_intercalate_of_isWord {tokens : List String}
    (h : ∀ token ∈ tokens, IsWord token.toList) : scan (":".intercalate tokens) = tokens := by
  induction tokens with
  | nil => rfl
  | cons token tokens ih =>
      obtain ⟨htoken, htokens⟩ := List.forall_mem_cons.mp h
      rcases tokens with _ | ⟨next, tokens⟩
      · rw [String.intercalate_singleton, scan_of_isWord htoken]
      · rw [String.intercalate_cons_cons, scan_append_gap_append (by decide) (by decide),
          scan_of_isWord htoken, ih htokens]
        rfl

theorem exists_spans_scan (expression : String) :
    ∃ spans, Spans expression.toList spans ∧
      scan expression = spans.map fun span => String.ofList (stretch expression.toList span) := by
  obtain ⟨spans, hspans, hwords⟩ := exists_spans expression.toList
  refine ⟨spans, hspans, ?_⟩
  rw [scan, hwords, List.map_map]
  rfl

theorem isWord_of_mem_scan {expression token : String} (h : token ∈ scan expression) :
    IsWord token.toList := by
  obtain ⟨word, hword, rfl⟩ := List.mem_map.mp h
  rw [String.toList_ofList]
  exact isWord_of_mem_words hword

theorem join_scan (expression : String) :
    String.join (scan expression) =
      String.ofList (expression.toList.filter (!isSeparator ·)) := by
  apply String.toList_inj.mp
  rw [String.toList_join, scan, String.toList_ofList, ← flatten_words, List.flatMap_map]
  simp [List.flatMap_id']

/-- Scanning finds the maximal runs of characters that are no separators, in order, and loses
nothing but separators. It finds words again that are set apart by separators, however many and of
whatever kinds, and what stands on the two sides of a separator is scanned independently. -/
theorem scan_finds_runs :
    (∀ c, isSeparator c ↔ c = ':' ∨ c = ',' ∨ c.toNat ∈ blankCodes) ∧
    (∀ expression,
      (∃ spans, Spans expression.toList spans ∧
        scan expression = spans.map fun span => String.ofList (stretch expression.toList span)) ∧
      (∀ token ∈ scan expression, IsWord token.toList) ∧
      String.join (scan expression) =
        String.ofList (expression.toList.filter (!isSeparator ·))) ∧
    (∀ pieces trail, SetApart pieces trail →
      scan (assemble pieces trail) = pieces.map Prod.snd) ∧
    ∀ (a b : String) (c : Char), isSeparator c →
      scan (a ++ String.singleton c ++ b) = scan a ++ scan b := by
  refine ⟨fun c => isSeparator_iff, ?_, fun pieces trail => scan_assemble, ?_⟩
  · intro expression
    exact ⟨exists_spans_scan expression, fun token => isWord_of_mem_scan, join_scan expression⟩
  · intro a b c hc
    refine scan_append_gap_append ?_ ?_ a b
    · rw [String.toList_singleton, IsGap, List.forall_mem_singleton]
      exact hc
    · rw [String.toList_singleton]
      exact List.cons_ne_nil c []

/-- Two words with mixed separators around and between them. -/
theorem scan_finds_runs_of_mixed_gaps :
    SetApart [(" :", "ALL"), (",\u2003:", "!RC4")] "\t" ∧
      scan (assemble [(" :", "ALL"), (",\u2003:", "!RC4")] "\t") = ["ALL", "!RC4"] ∧
      scan ("ALL" ++ String.singleton ',' ++ " !RC4") = ["ALL"] ++ ["!RC4"] := by
  have happart : SetApart [(" :", "ALL"), (",\u2003:", "!RC4")] "\t" := by
    constructor
    · decide
    · decide
    · decide
    · decide
  refine ⟨happart, scan_finds_runs.2.2.1 _ _ happart, ?_⟩
  exact scan_finds_runs.2.2.2 "ALL" " !RC4" ',' (by decide)

end Token

end CipherString
