import CipherString.Proofs.Denotation
import CipherString.Proofs.Membership
import CipherString.Proofs.PairOrder
import Mathlib.Data.Nat.Find
import Mathlib.Order.Bounds.Defs

/-!
In which order a run lists the suites that it selects. Of two suites, the last token that tells them
apart after both have come in decides. If there is none, it counts which came in first, and between
suites of one token their order in the catalog.
-/

namespace CipherString

namespace Interpreter

/-- The place of a token that appends the suite after every token that deletes it. -/
def AppendsAt (interpreter : Interpreter) (tokens : List String) (s : Suite) (i : Nat) : Prop :=
  (∃ token, tokens[i]? = some token ∧ s ∈ interpreter.targets .append token) ∧
    ∀ j token, tokens[j]? = some token → s ∈ interpreter.targets .delete token → j < i

/-- The place at which the suite comes in to stay: that of the first token that appends it after the
last that deletes it. -/
def EntersAt (interpreter : Interpreter) (tokens : List String) (s : Suite) (i : Nat) : Prop :=
  IsLeast {i | interpreter.AppendsAt tokens s i} i

def Favours (interpreter : Interpreter) (a b : Suite) (token : String) : Prop :=
  token = Instruction.sortDirective ∧ b.strength < a.strength ∨
    b ∈ interpreter.targets .moveToEnd token ∧ a ∉ interpreter.targets .moveToEnd token

theorem favours_effect {interpreter : Interpreter} {a b : Suite} {token : String} :
    (interpreter.effect token).Favours a b ↔ interpreter.Favours a b token := by
  rw [Effect.Favours, Favours, effect_eq_sort_iff, targets_effect]

theorem keeps_iff_exists_appendsAt {interpreter : Interpreter} {tokens : List String}
    {s : Suite} : interpreter.Keeps tokens s ↔ ∃ i, interpreter.AppendsAt tokens s i := by
  constructor
  · rintro ⟨before, token, after, rfl, happend, hlater⟩
    refine ⟨before.length, ⟨token, by simp, happend⟩, ?_⟩
    intro j later hj hdelete
    by_contra hle
    obtain ⟨k, rfl⟩ := Nat.exists_eq_add_of_le (Nat.le_of_not_lt hle)
    rw [List.getElem?_append_right (Nat.le_add_right _ _), Nat.add_sub_cancel_left] at hj
    cases k with
    | zero =>
        obtain rfl : token = later := by simpa using hj
        exact not_mem_targets_of_mem happend (by decide) hdelete
    | succ k => exact hlater later (List.mem_of_getElem? hj) hdelete
  · rintro ⟨i, ⟨token, hi, happend⟩, hdelete⟩
    refine ⟨tokens.take i, token, tokens.drop (i + 1), ?_, happend, ?_⟩
    · obtain ⟨hlt, rfl⟩ := List.getElem?_eq_some_iff.mp hi
      simp
    · intro later hlater hs
      obtain ⟨j, hj⟩ := List.mem_iff_getElem?.mp hlater
      rw [List.getElem?_drop] at hj
      have := hdelete _ later hj hs
      omega

theorem exists_entersAt {interpreter : Interpreter} {tokens : List String} {s : Suite}
    (h : interpreter.Keeps tokens s) : ∃ i, interpreter.EntersAt tokens s i := by
  classical
  have hexists := keeps_iff_exists_appendsAt.mp h
  exact ⟨Nat.find hexists, Nat.find_spec hexists, fun j hj => Nat.find_min' hexists hj⟩

section Prefixes

variable {interpreter : Interpreter} {tokens : List String} {s : Suite} {i : Nat}

theorem not_mem_chosen_play_take (h : interpreter.EntersAt tokens s i) :
    s ∉ (interpreter.play .empty (tokens.take i)).chosen := by
  intro hs
  obtain ⟨-, hkeeps⟩ := (interpreter.mem_chosen_play_iff _ _).mp hs
  obtain ⟨k, ⟨token, hk, happend⟩, hdelete⟩ := keeps_iff_exists_appendsAt.mp hkeeps
  have hki : k < i := by
    have hlength := (List.getElem?_eq_some_iff.mp hk).1
    rw [List.length_take] at hlength
    omega
  rw [List.getElem?_take_of_lt hki] at hk
  have hleast : i ≤ k := by
    refine h.2 ⟨⟨token, hk, happend⟩, ?_⟩
    intro j later hj hs
    have hji := h.1.2 j later hj hs
    exact hdelete j later (by rwa [List.getElem?_take_of_lt hji]) hs
  omega

theorem mem_chosen_play_take (h : interpreter.EntersAt tokens s i)
    (hban : ∀ token ∈ tokens, s ∉ interpreter.targets .ban token) {n : Nat} (hn : i < n) :
    s ∈ (interpreter.play .empty (tokens.take n)).chosen := by
  rw [mem_chosen_play_iff, keeps_iff_exists_appendsAt]
  refine ⟨fun token htoken => hban token (List.mem_of_mem_take htoken), i, ?_, ?_⟩
  · obtain ⟨token, hi, happend⟩ := h.1.1
    exact ⟨token, by rwa [List.getElem?_take_of_lt hn], happend⟩
  · intro j later hj hs
    refine h.1.2 j later ?_ hs
    rw [List.getElem?_take] at hj
    split at hj
    · exact hj
    · cases hj

end Prefixes

section Suffixes

variable {interpreter : Interpreter} {state : Selection} {tokens : List String} {a b s : Suite}

def Spares (interpreter : Interpreter) (tokens : List String) (s : Suite) : Prop :=
  ∀ token ∈ tokens, s ∉ interpreter.targets .delete token ∧ s ∉ interpreter.targets .ban token

theorem Spares.mem_chosen_act {token : String} (hspares : interpreter.Spares (token :: tokens) s)
    (hcoherent : state.Coherent) (hs : s ∈ state.chosen) :
    s ∈ (state.act (interpreter.effect token)).chosen := by
  obtain ⟨hdelete, hban⟩ := hspares token List.mem_cons_self
  simp only [hcoherent.mem_chosen_act, Selection.mem_banned_act, targets_effect]
  refine ⟨Or.inl hs, hdelete, ?_⟩
  rintro (hbanned | hbanned)
  · exact hcoherent.disjoint s hs hbanned
  · exact hban hbanned

theorem Spares.tail {token : String} (hspares : interpreter.Spares (token :: tokens) s) :
    interpreter.Spares tokens s :=
  fun later hlater => hspares later (List.mem_cons_of_mem token hlater)

theorem Spares.of_append_left {later : List String}
    (hspares : interpreter.Spares (tokens ++ later) s) : interpreter.Spares tokens s :=
  fun token htoken => hspares token (List.mem_append_left later htoken)

theorem Spares.of_append_right {before : List String}
    (hspares : interpreter.Spares (before ++ tokens) s) : interpreter.Spares tokens s :=
  fun token htoken => hspares token (List.mem_append_right before htoken)

theorem pair_sublist_play (hcoherent : state.Coherent) (h : [a, b].Sublist state.chosen)
    (ha : interpreter.Spares tokens a) (hb : interpreter.Spares tokens b)
    (hfavours : ∀ token ∈ tokens, ¬ interpreter.Favours b a token) :
    [a, b].Sublist (interpreter.play state tokens).chosen := by
  induction tokens generalizing state with
  | nil => exact h
  | cons token tokens ih =>
      have ha' := ha.mem_chosen_act hcoherent (h.subset (by simp))
      have hb' := hb.mem_chosen_act hcoherent (h.subset (by simp))
      have hact := Selection.pair_sublist_act h ha' hb'
        (mt favours_effect.mp (hfavours token List.mem_cons_self))
      exact ih (hcoherent.act _) hact ha.tail hb.tail fun later hlater =>
        hfavours later (List.mem_cons_of_mem token hlater)

theorem mem_chosen_play_of_spares (hcoherent : state.Coherent) (hs : s ∈ state.chosen)
    (hspares : interpreter.Spares tokens s) : s ∈ (interpreter.play state tokens).chosen := by
  induction tokens generalizing state with
  | nil => exact hs
  | cons token tokens ih =>
      exact ih (hcoherent.act _) (hspares.mem_chosen_act hcoherent hs) hspares.tail

def Decides (interpreter : Interpreter) (a b : Suite) (token : String) : Prop :=
  interpreter.Favours a b token ∨ interpreter.Favours b a token

theorem pair_sublist_play_iff (hcoherent : state.Coherent) (ha : a ∈ state.chosen)
    (hb : b ∈ state.chosen) (hab : a ≠ b) (haspares : interpreter.Spares tokens a)
    (hbspares : interpreter.Spares tokens b)
    (hdecides : ∀ token ∈ tokens, ¬ interpreter.Decides a b token) :
    [a, b].Sublist (interpreter.play state tokens).chosen ↔ [a, b].Sublist state.chosen := by
  constructor
  · intro h
    refine (pair_sublist_or ha hb hab).resolve_right fun hba => ?_
    have hplay := pair_sublist_play hcoherent hba hbspares haspares fun token htoken hfavours =>
      hdecides token htoken (Or.inl hfavours)
    exact not_pair_sublist (interpreter.coherent_play hcoherent tokens).nodup h hplay
  · intro h
    exact pair_sublist_play hcoherent h haspares hbspares fun token htoken hfavours =>
      hdecides token htoken (Or.inr hfavours)

theorem pair_sublist_play_of_favours {before after : List String} {token : String}
    (hcoherent : state.Coherent) (ha : a ∈ state.chosen) (hb : b ∈ state.chosen)
    (haspares : interpreter.Spares (before ++ token :: after) a)
    (hbspares : interpreter.Spares (before ++ token :: after) b)
    (hfavours : interpreter.Favours a b token)
    (hafter : ∀ later ∈ after, ¬ interpreter.Favours b a later) :
    [a, b].Sublist (interpreter.play state (before ++ token :: after)).chosen := by
  have hcoherent' := interpreter.coherent_play hcoherent before
  have ha' := mem_chosen_play_of_spares hcoherent ha haspares.of_append_left
  have hb' := mem_chosen_play_of_spares hcoherent hb hbspares.of_append_left
  rw [play_append, play_cons]
  refine pair_sublist_play (hcoherent'.act _) ?_ haspares.of_append_right.tail
    hbspares.of_append_right.tail hafter
  exact Selection.pair_sublist_act_of_favours ha' hb' (favours_effect.mpr hfavours)

theorem pair_sublist_play_iff_favours {before after : List String} {token : String}
    (hcoherent : state.Coherent) (ha : a ∈ state.chosen) (hb : b ∈ state.chosen)
    (haspares : interpreter.Spares (before ++ token :: after) a)
    (hbspares : interpreter.Spares (before ++ token :: after) b)
    (hdecides : interpreter.Decides a b token)
    (hafter : ∀ later ∈ after, ¬ interpreter.Decides a b later) :
    [a, b].Sublist (interpreter.play state (before ++ token :: after)).chosen ↔
      interpreter.Favours a b token := by
  constructor
  · intro h
    refine hdecides.resolve_right fun hfavours => ?_
    have hba := pair_sublist_play_of_favours hcoherent hb ha hbspares haspares hfavours
      fun later hlater hlast => hafter later hlater (Or.inl hlast)
    exact not_pair_sublist (interpreter.coherent_play hcoherent _).nodup h hba
  · intro hfavours
    exact pair_sublist_play_of_favours hcoherent ha hb haspares hbspares hfavours
      fun later hlater hlast => hafter later hlater (Or.inr hlast)

end Suffixes

section Entering

variable {interpreter : Interpreter} {tokens : List String} {a b s : Suite} {i j : Nat}

theorem EntersAt.spares (h : interpreter.EntersAt tokens s i)
    (hban : ∀ token ∈ tokens, s ∉ interpreter.targets .ban token) {n : Nat} (hn : i ≤ n) :
    interpreter.Spares (tokens.drop n) s := by
  intro token htoken
  refine ⟨fun hs => ?_, hban token (List.mem_of_mem_drop htoken)⟩
  obtain ⟨k, hk⟩ := List.mem_iff_getElem?.mp htoken
  rw [List.getElem?_drop] at hk
  have hbefore := h.1.2 _ token hk hs
  omega

theorem EntersAt.play_take_succ (h : interpreter.EntersAt tokens s i) :
    ∃ token, s ∈ interpreter.targets .append token ∧ tokens[i]? = some token ∧
      interpreter.play .empty (tokens.take (i + 1)) =
        (interpreter.play .empty (tokens.take i)).append (interpreter.targets .append token) := by
  obtain ⟨token, hi, hs⟩ := h.1.1
  refine ⟨token, hs, hi, ?_⟩
  rw [List.take_add_one, hi, Option.toList_some, play_append, play_cons, play_nil,
    effect_eq_of_mem_targets hs]
  rfl

/-- Two suites that one token treats alike stand in it as in the catalog. -/
theorem pair_sublist_targets_iff {modifier : Modifier} {token : String}
    (ha : a ∈ interpreter.targets modifier token) (hb : b ∈ interpreter.targets modifier token)
    (hab : a ≠ b) :
    [a, b].Sublist (interpreter.targets modifier token) ↔
      [a, b].Sublist interpreter.catalog.suites.toList := by
  rcases interpreter.targets_cases modifier token with ⟨-, s, -, -, htargets⟩ | ⟨p, htargets⟩
  · rw [htargets, List.mem_singleton] at ha hb
    exact absurd (ha.trans hb.symm) hab
  · rw [htargets] at ha hb ⊢
    constructor
    · intro h
      exact h.trans List.filter_sublist
    · intro h
      exact pair_sublist_filter h (List.mem_filter.mp ha).2 (List.mem_filter.mp hb).2

theorem pair_sublist_play_take_of_lt (ha : interpreter.EntersAt tokens a i)
    (hb : interpreter.EntersAt tokens b j) (hij : i < j)
    (haban : ∀ token ∈ tokens, a ∉ interpreter.targets .ban token)
    (hbban : ∀ token ∈ tokens, b ∉ interpreter.targets .ban token) :
    [a, b].Sublist (interpreter.play .empty (tokens.take (j + 1))).chosen := by
  have hin := mem_chosen_play_take ha haban hij
  have hout := not_mem_chosen_play_take hb
  have hnext := mem_chosen_play_take hb hbban (Nat.lt_succ_self j)
  obtain ⟨token, -, -, hplay⟩ := hb.play_take_succ
  rw [hplay] at hnext ⊢
  exact Selection.pair_sublist_append_of_new hin hout hnext

/-- Once both of two suites have entered, the place decides, and the catalog at one place. -/
theorem pair_sublist_play_take_iff (ha : interpreter.EntersAt tokens a i)
    (hb : interpreter.EntersAt tokens b j) (hab : a ≠ b)
    (haban : ∀ token ∈ tokens, a ∉ interpreter.targets .ban token)
    (hbban : ∀ token ∈ tokens, b ∉ interpreter.targets .ban token) :
    [a, b].Sublist (interpreter.play .empty (tokens.take (max i j + 1))).chosen ↔
      i < j ∨ i = j ∧ [a, b].Sublist interpreter.catalog.suites.toList := by
  rcases Nat.lt_trichotomy i j with hij | rfl | hji
  · rw [Nat.max_eq_right (Nat.le_of_lt hij)]
    exact iff_of_true (pair_sublist_play_take_of_lt ha hb hij haban hbban) (Or.inl hij)
  · have haout := not_mem_chosen_play_take ha
    have hbout := not_mem_chosen_play_take hb
    have hanext := mem_chosen_play_take ha haban (Nat.lt_succ_self i)
    have hbnext := mem_chosen_play_take hb hbban (Nat.lt_succ_self i)
    obtain ⟨token, hatoken, hi, hplay⟩ := ha.play_take_succ
    obtain ⟨other, hbtoken, hi', -⟩ := hb.play_take_succ
    obtain rfl : token = other := Option.some.inj (hi.symm.trans hi')
    rw [hplay] at hanext hbnext
    rw [Nat.max_self, hplay, Selection.pair_sublist_append_iff
      (interpreter.nodup_targets .append token) haout hbout hanext hbnext,
      pair_sublist_targets_iff hatoken hbtoken hab]
    simp
  · rw [Nat.max_eq_left (Nat.le_of_lt hji)]
    have hba := pair_sublist_play_take_of_lt hb ha hji hbban haban
    have hnodup := (interpreter.coherent_play_empty (tokens.take (i + 1))).nodup
    refine iff_of_false (not_pair_sublist hnodup hba) ?_
    rintro (hij | ⟨rfl, -⟩)
    · omega
    · omega

end Entering

/-- Of two suites that a run selects, the last token that tells them apart after both have entered
fixes which comes first; without one, the place at which each entered does, and for one place the
catalog. -/
theorem pair_sublist_run_iff {interpreter : Interpreter} {tokens : List String} {final : Selection}
    (hrun : (interpreter.run tokens).outcome = .ok final) {a b : Suite} (ha : a ∈ final.suites)
    (hb : b ∈ final.suites) (hab : a ≠ b) :
    ∃ i j, interpreter.EntersAt (spellOutDefault tokens) a i ∧
      interpreter.EntersAt (spellOutDefault tokens) b j ∧
      (∀ before token after,
        (spellOutDefault tokens).drop (max i j + 1) = before ++ token :: after →
        interpreter.Decides a b token → (∀ later ∈ after, ¬ interpreter.Decides a b later) →
          ([a, b].Sublist final.suites ↔ interpreter.Favours a b token)) ∧
      ((∀ token ∈ (spellOutDefault tokens).drop (max i j + 1), ¬ interpreter.Decides a b token) →
          ([a, b].Sublist final.suites ↔
            i < j ∨ i = j ∧ [a, b].Sublist interpreter.catalog.suites.toList)) := by
  obtain ⟨-, rfl⟩ := (interpreter.outcome_steps_eq_ok_iff _ _ _).mp hrun
  obtain ⟨haban, hakeeps⟩ := (interpreter.mem_suites_play_iff _ _).mp ha
  obtain ⟨hbban, hbkeeps⟩ := (interpreter.mem_suites_play_iff _ _).mp hb
  obtain ⟨i, hi⟩ := exists_entersAt hakeeps
  obtain ⟨j, hj⟩ := exists_entersAt hbkeeps
  generalize spellOutDefault tokens = spelled at *
  have hcoherent := interpreter.coherent_play Selection.coherent_empty
  have hain := mem_chosen_play_take hi haban (Nat.lt_succ_of_le (Nat.le_max_left i j))
  have hbin := mem_chosen_play_take hj hbban (Nat.lt_succ_of_le (Nat.le_max_right i j))
  have haspares := hi.spares haban (Nat.le_succ_of_le (Nat.le_max_left i j))
  have hbspares := hj.spares hbban (Nat.le_succ_of_le (Nat.le_max_right i j))
  have hplay : (interpreter.play .empty spelled).suites =
      (interpreter.play (interpreter.play .empty (spelled.take (max i j + 1)))
        (spelled.drop (max i j + 1))).chosen := by
    rw [(hcoherent spelled).suites_eq, ← play_append, List.take_append_drop]
  rw [hplay]
  refine ⟨i, j, hi, hj, ?_, ?_⟩
  · intro before token after hdrop hdecides hafter
    rw [hdrop] at haspares hbspares ⊢
    exact pair_sublist_play_iff_favours (hcoherent _) hain hbin haspares hbspares hdecides hafter
  · intro hdecides
    rw [pair_sublist_play_iff (hcoherent _) hain hbin hab haspares hbspares hdecides]
    exact pair_sublist_play_take_iff hi hj hab haban hbban

theorem pair_sublist_run_of_promotion :
    ∃ final, (sample.run ["ALL", "+ECDHE"]).outcome = .ok final ∧
      [⟨"rsa", "aes_128_cbc", "sha", "default_prf"⟩,
        ⟨"ecdhe_rsa", "aes_256_gcm", "aead", "sha384"⟩].Sublist final.suites := by
  have hrun : (sample.run ["ALL", "+ECDHE"]).outcome =
      .ok (sample.play .empty ["ALL", "+ECDHE"]) := rfl
  have hzero : ∀ s ∈ sample.targets .append "ALL", sample.AppendsAt ["ALL", "+ECDHE"] s 0 := by
    intro s hs
    refine ⟨⟨"ALL", rfl, hs⟩, fun j token hj hdelete => ?_⟩
    have hnone : ∀ token ∈ ["ALL", "+ECDHE"], sample.targets .delete token = [] := by decide
    rw [hnone token (List.mem_of_getElem? hj)] at hdelete
    exact absurd hdelete List.not_mem_nil
  obtain ⟨i, j, hi, hj, hlast, -⟩ := pair_sublist_run_iff hrun
    (a := ⟨"rsa", "aes_128_cbc", "sha", "default_prf"⟩)
    (b := ⟨"ecdhe_rsa", "aes_256_gcm", "aead", "sha384"⟩) (by decide) (by decide) (by decide)
  obtain rfl : i = 0 := Nat.le_zero.mp (hi.2 (hzero _ (by decide)))
  obtain rfl : j = 0 := Nat.le_zero.mp (hj.2 (hzero _ (by decide)))
  have hfavours : sample.Favours ⟨"rsa", "aes_128_cbc", "sha", "default_prf"⟩
      ⟨"ecdhe_rsa", "aes_256_gcm", "aead", "sha384"⟩ "+ECDHE" := Or.inr (by decide)
  exact ⟨_, hrun, (hlast [] "+ECDHE" [] rfl (Or.inl hfavours) (by simp)).mpr hfavours⟩

end Interpreter

end CipherString
