import CipherString.Policy
import CipherString.Proofs.Naming
import Mathlib.Data.Bool.AllAny

/-!
The texts that spell a word. White space around a word does not count, and upper case takes several
characters to one letter and some characters to two. So a word is spelt in more ways than by its
letters in either case: the long `s`, the dotless `i` and the ligatures of `s` and `t` spell too.
-/

namespace CipherString.Text

/-- The capital letters that have code points below 128. -/
def capitals : List Char :=
  "ABCDEFGHIJKLMNOPQRSTUVWXYZ".toList

/-- The characters spell the word, letter by letter. -/
inductive Spells : List Char → List Char → Prop
  | nil : Spells [] []
  | letter {c x : Char} {cs word : List Char} (h : c = x ∨ c = x.toLower) :
      Spells cs word → Spells (c :: cs) (x :: word)
  | longS {cs word : List Char} : Spells cs word → Spells ('\u017f' :: cs) ('S' :: word)
  | dotlessI {cs word : List Char} : Spells cs word → Spells ('\u0131' :: cs) ('I' :: word)
  | ligature {c : Char} {cs word : List Char} (h : c = '\ufb05' ∨ c = '\ufb06') :
      Spells cs word → Spells (c :: cs) ('S' :: 'T' :: word)

theorem spells_self (word : List Char) : Spells word word := by
  induction word with
  | nil => exact .nil
  | cons x word ih => exact .letter (Or.inl rfl) ih

section Tables

theorem mem_expansions_of_image : ∀ entry ∈ expansions,
    entry.2 = [0x53, 0x54] → entry.1 = 0xfb05 ∨ entry.1 = 0xfb06 := by
  decide

theorem mem_caseRuns : ∀ run ∈ caseRuns, 128 ≤ run.upper ∨ run = ⟨0x61, 0x7a, 1, 0x41⟩ ∨
    run = ⟨0x131, 0x131, 1, 0x49⟩ ∨ run = ⟨0x17f, 0x17f, 1, 0x53⟩ := by
  decide +kernel

-- What holds of each capital is decided by `List.all`: a claim about all characters that are in a
-- list may be decided by going through all characters there are.
theorem upperChar_of_mem_capitals : ∀ x ∈ capitals,
    upperChar x = [x] ∧ upperChar x.toLower = [x] := by
  rw [← List.all_iff_forall_prop]
  decide +kernel

theorem toNat_of_mem_capitals : ∀ x ∈ capitals,
    65 ≤ x.toNat ∧ x.toNat ≤ 90 ∧ x.toLower.toNat = x.toNat + 32 := by
  rw [← List.all_iff_forall_prop]
  decide

end Tables

section Preimage

variable {c x : Char} {cs core word : List Char}

theorem upperChar_cases (c : Char) :
    (∃ entry ∈ expansions, entry.1 = c.toNat ∧ upperChar c = entry.2.map Char.ofNat) ∨
      (∃ run ∈ caseRuns, run.covers c.toNat ∧ upperChar c = [Char.ofNat (run.image c.toNat)]) ∨
        upperChar c = [c] := by
  rw [upperChar]
  cases hlookup : expansions.lookup c.toNat with
  | some image => exact Or.inl ⟨_, mem_of_lookup_eq_some hlookup, rfl, rfl⟩
  | none =>
      cases hfind : caseRuns.find? (·.covers c.toNat) with
      | some run =>
          have hcovers := List.find?_some hfind
          exact Or.inr (Or.inl ⟨run, List.mem_of_find?_eq_some hfind, hcovers, rfl⟩)
      | none => exact Or.inr (Or.inr rfl)

theorem toNat_eq_of_ofNat_eq {n : Nat} (hx : x ∈ capitals) (h : Char.ofNat n = x) :
    x.toNat = n := by
  subst h
  by_cases hvalid : n.isValidChar
  · rw [Char.ofNat, dif_pos hvalid]
    rfl
  · have hzero : (Char.ofNat n).toNat = 0 := by
      rw [Char.ofNat, dif_neg hvalid]
      rfl
    have hpos := (toNat_of_mem_capitals _ hx).1
    omega

/-- All but three runs lead to code points above the capitals. -/
theorem eq_of_ofNat_image_eq {run : CaseRun} (hrun : run ∈ caseRuns) (hcovers : run.covers c.toNat)
    (hx : x ∈ capitals) (h : Char.ofNat (run.image c.toNat) = x) :
    c = x.toLower ∨ (c = '\u0131' ∧ x = 'I') ∨ (c = '\u017f' ∧ x = 'S') := by
  have himage := toNat_eq_of_ofNat_eq hx h
  obtain ⟨-, hhigh, hlower⟩ := toNat_of_mem_capitals x hx
  simp only [CaseRun.covers, Bool.and_eq_true, decide_eq_true_eq] at hcovers
  simp only [← Char.toNat_inj]
  rw [CaseRun.image] at himage
  rcases mem_caseRuns run hrun with hupper | rfl | rfl | rfl
  · omega
  · dsimp only at hcovers himage
    exact Or.inl (by omega)
  · dsimp only at hcovers himage
    exact Or.inr (Or.inl ⟨show _ = 0x131 by omega, show _ = 0x49 by omega⟩)
  · dsimp only at hcovers himage
    exact Or.inr (Or.inr ⟨show _ = 0x17f by omega, show _ = 0x53 by omega⟩)

/-- The word is in capitals, and no two letters of it but `ST` are the upper case of one
character. -/
structure IsPlain (word : List Char) : Prop where
  capital : ∀ x ∈ word, x ∈ capitals
  image : ∀ entry ∈ expansions, entry.2.map Char.ofNat <:+: word → entry.2 = [0x53, 0x54]

theorem IsPlain.of_suffix {front rest : List Char} (h : IsPlain (front ++ rest)) :
    IsPlain rest where
  capital x hx := h.capital x (List.mem_append_right front hx)
  image entry hentry hwithin :=
    h.image entry hentry (hwithin.trans (List.suffix_append front rest).isInfix)

theorem upperChar_of_mem_expansions {entry : Nat × List Nat} (hentry : entry ∈ expansions)
    (hc : entry.1 = c.toNat) (himage : entry.2 = [0x53, 0x54]) : c = '\ufb05' ∨ c = '\ufb06' := by
  simp only [← Char.toNat_inj]
  rw [← hc]
  exact mem_expansions_of_image entry hentry himage

/-- The induction is on the characters: the upper case of the first one is the first letter, or the
first two, and the rest of the word is plain again. -/
theorem spells_of_flatMap_eq (hword : IsPlain word) (h : core.flatMap upperChar = word) :
    Spells core word := by
  induction core generalizing word with
  | nil =>
      subst h
      exact .nil
  | cons c core ih =>
      rw [List.flatMap_cons] at h
      subst h
      have hspells := ih hword.of_suffix rfl
      rcases upperChar_cases c with
        ⟨entry, hentry, hc, hupper⟩ | ⟨run, hrun, hcovers, hupper⟩ | hupper
      · have himage : entry.2 = [0x53, 0x54] := by
          apply hword.image entry hentry
          rw [hupper]
          exact (List.prefix_append _ _).isInfix
        rw [hupper, himage]
        exact .ligature (upperChar_of_mem_expansions hentry hc himage) hspells
      · rw [hupper] at hword ⊢
        have hx := hword.capital _ List.mem_cons_self
        rcases eq_of_ofNat_image_eq hrun hcovers hx rfl with hlower | ⟨rfl, hx⟩ | ⟨rfl, hx⟩
        · exact .letter (Or.inr hlower) hspells
        · rw [hx]
          exact .dotlessI hspells
        · rw [hx]
          exact .longS hspells
      · rw [hupper]
        exact .letter (Or.inl rfl) hspells

theorem Spells.flatMap_eq (h : Spells core word) (hword : ∀ x ∈ word, x ∈ capitals) :
    core.flatMap upperChar = word := by
  induction h with
  | nil => rfl
  | @letter c x cs word hc _ ih =>
      obtain ⟨hx, hword⟩ := List.forall_mem_cons.mp hword
      obtain ⟨hsame, hlower⟩ := upperChar_of_mem_capitals x hx
      have hupper : upperChar c = [x] := by
        rcases hc with rfl | rfl
        · exact hsame
        · exact hlower
      rw [List.flatMap_cons, hupper, ih hword]
      rfl
  | longS _ ih =>
      rw [List.flatMap_cons, ih (List.forall_mem_cons.mp hword).2]
      rfl
  | dotlessI _ ih =>
      rw [List.flatMap_cons, ih (List.forall_mem_cons.mp hword).2]
      rfl
  | @ligature c cs word hc _ ih =>
      have hupper : upperChar c = ['S', 'T'] := by
        rcases hc with rfl | rfl
        · rfl
        · rfl
      rw [List.flatMap_cons, hupper,
        ih (List.forall_mem_cons.mp (List.forall_mem_cons.mp hword).2).2]
      rfl

theorem flatMap_upperChar_eq_iff (hword : IsPlain word) :
    core.flatMap upperChar = word ↔ Spells core word :=
  ⟨spells_of_flatMap_eq hword, fun h => h.flatMap_eq hword.capital⟩

end Preimage

section Padding

variable {before core after word : List Char}

/-- The text consists of the core and white space around it. -/
def IsPadded (s : String) (core : List Char) : Prop :=
  ∃ before after, s.toList = before ++ core ++ after ∧ ∀ c ∈ before ++ after, isBlank c

/-- The text spells the word, with white space around it or without. -/
def IsSpelling (s : String) (word : String) : Prop :=
  ∃ core, IsPadded s core ∧ Spells core word.toList

/-- The texts differ in the white space around them and in the case of the letters below code point
128 only. -/
def Alike (s t : String) : Prop :=
  ∃ left right, IsPadded s left ∧ IsPadded t right ∧ left.map Char.toUpper = right.map Char.toUpper

/-- The characters without the white space at their ends. -/
def trimmed (cs : List Char) : List Char :=
  dropEndWhile isBlank (cs.dropWhile isBlank)

theorem toList_trim (s : String) : (trim s).toList = trimmed s.toList :=
  String.toList_ofList

theorem trimmed_append (hbefore : ∀ c ∈ before, isBlank c) (hafter : ∀ c ∈ after, isBlank c) :
    trimmed (before ++ core ++ after) = trimmed core := by
  rw [trimmed, trimmed, List.append_assoc, List.dropWhile_append_of_pos hbefore,
    List.dropWhile_append]
  split
  · rename_i hnil
    have hdrop : after.dropWhile isBlank = [] := by
      rw [← List.append_nil after, List.dropWhile_append_of_pos hafter, List.dropWhile_nil]
    rw [hdrop, List.isEmpty_iff.mp hnil]
  · exact dropEndWhile_append hafter _

theorem IsPadded.trimmed_eq {s : String} (h : IsPadded s core) :
    trimmed s.toList = trimmed core := by
  obtain ⟨before, after, hs, hblank⟩ := h
  obtain ⟨hbefore, hafter⟩ := List.forall_mem_append.mp hblank
  rw [hs, trimmed_append hbefore hafter]

theorem isPadded_trimmed (s : String) : IsPadded s (trimmed s.toList) := by
  obtain ⟨after, hafter, hblank⟩ := exists_dropEndWhile_append isBlank (s.toList.dropWhile isBlank)
  refine ⟨s.toList.takeWhile isBlank, after, ?_, ?_⟩
  · rw [List.append_assoc, trimmed, ← hafter, List.takeWhile_append_dropWhile]
  · exact List.forall_mem_append.mpr ⟨List.all_eq_true.mp List.all_takeWhile, hblank⟩

theorem isSpelling_self (word : String) : IsSpelling word word := by
  refine ⟨word.toList, ⟨[], [], ?_, ?_⟩, spells_self word.toList⟩
  · rw [List.nil_append, List.append_nil]
  · exact fun _ hc => absurd hc List.not_mem_nil

theorem trimmed_eq_self (h : ∀ c ∈ core, isBlank c = false) : trimmed core = core := by
  have hdrop : ∀ cs : List Char, (∀ c ∈ cs, isBlank c = false) → cs.dropWhile isBlank = cs := by
    intro cs hcs
    cases cs with
    | nil => rfl
    | cons c cs => rw [List.dropWhile_cons, hcs c List.mem_cons_self, if_neg Bool.false_ne_true]
  rw [trimmed, hdrop core h, dropEndWhile, hdrop core.reverse, List.reverse_reverse]
  intro c hc
  exact h c (List.mem_reverse.mp hc)

theorem not_isBlank_of_mem_capitals : ∀ x ∈ capitals,
    isBlank x = false ∧ isBlank x.toLower = false := by
  rw [← List.all_iff_forall_prop]
  decide

theorem Spells.not_isBlank (h : Spells core word) (hword : ∀ x ∈ word, x ∈ capitals) :
    ∀ c ∈ core, isBlank c = false := by
  induction h with
  | nil => exact fun _ hc => absurd hc List.not_mem_nil
  | @letter c x cs word hc _ ih =>
      obtain ⟨hx, hword⟩ := List.forall_mem_cons.mp hword
      refine List.forall_mem_cons.mpr ⟨?_, ih hword⟩
      rcases hc with rfl | rfl
      · exact (not_isBlank_of_mem_capitals _ hx).1
      · exact (not_isBlank_of_mem_capitals x hx).2
  | longS _ ih => exact List.forall_mem_cons.mpr ⟨rfl, ih (List.forall_mem_cons.mp hword).2⟩
  | dotlessI _ ih => exact List.forall_mem_cons.mpr ⟨rfl, ih (List.forall_mem_cons.mp hword).2⟩
  | ligature hc _ ih =>
      refine List.forall_mem_cons.mpr
        ⟨?_, ih (List.forall_mem_cons.mp (List.forall_mem_cons.mp hword).2).2⟩
      rcases hc with rfl | rfl
      · rfl
      · rfl

end Padding

section LetterCase

theorem toUpper_cases (c : Char) :
    c.toUpper = c ∨ ∃ x ∈ capitals, c.toUpper = x ∧ c = x.toLower := by
  have hcapital : ∀ n < 26, (Char.ofNat (97 + n)).toUpper ∈ capitals ∧
      Char.ofNat (97 + n) = (Char.ofNat (97 + n)).toUpper.toLower := by
    decide
  by_cases hlower : 97 ≤ c.toNat ∧ c.toNat ≤ 122
  · have hc : Char.ofNat (97 + (c.toNat - 97)) = c := by
      rw [Nat.add_sub_cancel' hlower.1, Char.ofNat_toNat]
    have h := hcapital (c.toNat - 97) (by omega)
    rw [hc] at h
    exact Or.inr ⟨_, h.1, rfl, h.2⟩
  · exact Or.inl (dif_neg hlower)

theorem upperChar_toUpper (c : Char) : upperChar c.toUpper = upperChar c := by
  rcases toUpper_cases c with hsame | ⟨x, hx, hupper, hlower⟩
  · rw [hsame]
  · obtain ⟨hcapital, hsmall⟩ := upperChar_of_mem_capitals x hx
    rw [hupper, hcapital, hlower, hsmall]

theorem isBlank_toUpper (c : Char) : isBlank c.toUpper = isBlank c := by
  rcases toUpper_cases c with hsame | ⟨x, hx, hupper, hlower⟩
  · rw [hsame]
  · obtain ⟨hcapital, hsmall⟩ := not_isBlank_of_mem_capitals x hx
    rw [hupper, hcapital, hlower, hsmall]

theorem trimmed_map_toUpper (cs : List Char) :
    trimmed (cs.map Char.toUpper) = (trimmed cs).map Char.toUpper := by
  have hblank : isBlank ∘ Char.toUpper = isBlank := by
    funext c
    exact isBlank_toUpper c
  rw [trimmed, trimmed, dropEndWhile, dropEndWhile, List.dropWhile_map, hblank, ← List.map_reverse,
    List.dropWhile_map, hblank, ← List.map_reverse]

theorem flatMap_upperChar_map_toUpper (cs : List Char) :
    (cs.map Char.toUpper).flatMap upperChar = cs.flatMap upperChar := by
  rw [List.flatMap_map]
  exact List.flatMap_congr fun c _ => upperChar_toUpper c

end LetterCase

end CipherString.Text

namespace CipherString.Policy

open Text

theorem toList_wordOf (s : String) : (wordOf s).toList = (trimmed s.toList).flatMap upperChar := by
  rw [wordOf, upper, String.toList_ofList, toList_trim]

theorem wordOf_eq_iff {word : String} (hword : IsPlain word.toList) (s : String) :
    wordOf s = word ↔ IsSpelling s word := by
  rw [← String.toList_inj, toList_wordOf]
  constructor
  · intro h
    exact ⟨_, isPadded_trimmed s, (flatMap_upperChar_eq_iff hword).mp h⟩
  · rintro ⟨core, hpadded, hspells⟩
    rw [hpadded.trimmed_eq, trimmed_eq_self (hspells.not_isBlank hword.capital)]
    exact (flatMap_upperChar_eq_iff hword).mpr hspells

theorem wordOf_eq_of_alike {s t : String} (h : Alike s t) : wordOf s = wordOf t := by
  obtain ⟨left, right, hleft, hright, hsame⟩ := h
  rw [← String.toList_inj, toList_wordOf, toList_wordOf, hleft.trimmed_eq, hright.trimmed_eq]
  calc (trimmed left).flatMap upperChar
      = (trimmed (left.map Char.toUpper)).flatMap upperChar := by
        rw [trimmed_map_toUpper, flatMap_upperChar_map_toUpper]
    _ = (trimmed right).flatMap upperChar := by
        rw [hsame, trimmed_map_toUpper, flatMap_upperChar_map_toUpper]

end CipherString.Policy
