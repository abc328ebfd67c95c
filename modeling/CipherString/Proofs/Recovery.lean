import CipherString.Proofs.Idempotence
import CipherString.Proofs.Invariant

namespace CipherString

namespace Selection

variable {state : Selection} {s : Suite}

theorem perm_chosen_moveToEnd (state : Selection) (suites : List Suite) :
    (state.moveToEnd suites).chosen.Perm state.chosen := by
  show (state.chosen.filter (· ∉ suites) ++ state.chosen.filter (· ∈ suites)).Perm state.chosen
  refine List.perm_append_comm.trans ?_
  simpa using List.filter_append_perm (· ∈ suites) state.chosen

theorem perm_chosen_sortByStrength (state : Selection) :
    state.sortByStrength.chosen.Perm state.chosen :=
  List.mergeSort_perm _ _

/-- A suite comes in by an operation only if it is neither in nor shut out, and then once. -/
theorem count_chosen_act (state : Selection) (effect : Effect) (s : Suite) :
    (state.act effect).chosen.count s ≤ state.chosen.count s ∨
      s ∉ state.chosen ∧ s ∉ state.banned ∧ (state.act effect).chosen.count s = 1 := by
  cases effect with
  | sort => exact Or.inl (state.perm_chosen_sortByStrength.count_eq s).le
  | idle => exact Or.inl (Nat.le_refl _)
  | modify modifier suites =>
      cases modifier with
      | append =>
          have hcount : (state.append suites).chosen.count s = state.chosen.count s +
              (Distinct.firsts
                (suites.filter fun s => s ∉ state.chosen ∧ s ∉ state.banned)).count s :=
            List.count_append
          rw [act_append, hcount]
          by_cases hnew : s ∈ suites.filter fun s => s ∉ state.chosen ∧ s ∉ state.banned
          · right
            have hout : s ∉ state.chosen ∧ s ∉ state.banned := by
              simpa using (List.mem_filter.mp hnew).2
            refine ⟨hout.1, hout.2, ?_⟩
            rw [List.count_eq_zero.mpr hout.1,
              List.count_eq_one_of_mem (Distinct.nodup_firsts _) (Distinct.mem_firsts.mpr hnew)]
          · left
            rw [List.count_eq_zero.mpr (mt Distinct.mem_firsts.mp hnew)]
            exact Nat.le_refl _
      | ban => exact Or.inl (List.filter_sublist.count_le s)
      | delete => exact Or.inl (List.filter_sublist.count_le s)
      | moveToEnd => exact Or.inl ((state.perm_chosen_moveToEnd suites).count_eq s).le

theorem count_chosen_act_le_max (state : Selection) (effect : Effect) (s : Suite) :
    (state.act effect).chosen.count s ≤ max 1 (state.chosen.count s) := by
  rcases state.count_chosen_act effect s with hle | ⟨-, -, hone⟩
  · omega
  · omega

theorem count_chosen_act_le (hs : s ∈ state.banned) (effect : Effect) :
    (state.act effect).chosen.count s ≤ state.chosen.count s :=
  (state.count_chosen_act effect s).resolve_right fun h => h.2.1 hs

theorem banned_act_of_ne_ban {effect : Effect} (h : ∀ suites, effect ≠ .modify .ban suites) :
    (state.act effect).banned = state.banned := by
  cases effect with
  | sort => rfl
  | idle => rfl
  | modify modifier suites =>
      cases modifier with
      | append => rfl
      | ban => exact absurd rfl (h suites)
      | delete => rfl
      | moveToEnd => rfl

/-- What is both in and shut out after an operation was so before it. -/
theorem mem_of_mem_act (effect : Effect) (hs : s ∈ (state.act effect).chosen)
    (hbanned : s ∈ (state.act effect).banned) : s ∈ state.chosen ∧ s ∈ state.banned := by
  by_cases hban : ∃ suites, effect = .modify .ban suites
  · obtain ⟨suites, rfl⟩ := hban
    exact absurd hbanned (not_mem_banned_ban hs)
  · rw [banned_act_of_ne_ban (by simpa using hban)] at hbanned
    have hcount := count_chosen_act_le hbanned effect
    exact ⟨List.count_pos_iff.mp (Nat.lt_of_lt_of_le (List.count_pos_iff.mpr hs) hcount), hbanned⟩

/-- The selection after effects, one after another. -/
def after (state : Selection) (effects : List Effect) : Selection :=
  effects.foldl act state

theorem after_append (state : Selection) (effects later : List Effect) :
    state.after (effects ++ later) = (state.after effects).after later :=
  List.foldl_append

/-- What every operation keeps holds after any of them. -/
theorem after_induction (p : Selection → Prop) (effects : List Effect) (h : p state)
    (hact : ∀ state effect, p state → p (state.act effect)) : p (state.after effects) := by
  induction effects generalizing state with
  | nil => exact h
  | cons effect effects ih => exact ih (hact state effect h)

theorem count_chosen_after_le_max (state : Selection) (effects : List Effect) (s : Suite) :
    (state.after effects).chosen.count s ≤ max 1 (state.chosen.count s) := by
  apply after_induction (fun next => next.chosen.count s ≤ max 1 (state.chosen.count s)) effects
    (Nat.le_max_right _ _)
  intro next effect hnext
  have hstep := next.count_chosen_act_le_max effect s
  omega

theorem mem_banned_after_of_mem (hs : s ∈ state.banned) (effects : List Effect) :
    s ∈ (state.after effects).banned :=
  after_induction (s ∈ ·.banned) effects hs fun _ _ hnext => mem_banned_act.mpr (Or.inl hnext)

theorem count_chosen_after_le (hs : s ∈ state.banned) (effects : List Effect) :
    (state.after effects).chosen.count s ≤ state.chosen.count s := by
  -- Only while the suite is shut out does its count not grow, so both are carried along.
  refine (after_induction (fun next => s ∈ next.banned ∧
    next.chosen.count s ≤ state.chosen.count s) effects ⟨hs, Nat.le_refl _⟩ ?_).2
  rintro next effect ⟨hbanned, hcount⟩
  exact ⟨mem_banned_act.mpr (Or.inl hbanned), (count_chosen_act_le hbanned effect).trans hcount⟩

theorem not_mem_banned_after (h : ∀ s ∈ state.chosen, s ∉ state.banned) (effects : List Effect) :
    ∀ s ∈ (state.after effects).chosen, s ∉ (state.after effects).banned := by
  apply after_induction (fun next => ∀ s ∈ next.chosen, s ∉ next.banned) effects h
  intro next effect hnext s hs hbanned
  obtain ⟨hchosen, hold⟩ := mem_of_mem_act effect hs hbanned
  exact hnext s hchosen hold

/-- Whatever a selection holds at the start, no operations make a suite more frequent than it was,
unless it comes in for the first time; to move and to sort change the order alone, only a ban shuts
out, and only what it is given; a suite that is shut out comes in no more; and after a ban, even of
no suites, nothing that is shut out is in. -/
theorem effects_from_anywhere (state : Selection) :
    (∀ effects s, (state.after effects).chosen.count s ≤ max 1 (state.chosen.count s)) ∧
    (∀ suites, (state.moveToEnd suites).chosen.Perm state.chosen) ∧
    state.sortByStrength.chosen.Perm state.chosen ∧
    (∀ effect, (∀ suites, effect ≠ .modify .ban suites) →
      (state.act effect).banned = state.banned) ∧
    (∀ suites s, s ∈ (state.ban suites).banned ↔ s ∈ state.banned ∨ s ∈ suites) ∧
    (∀ before middle later s, s ∈ (state.after before).banned →
      (state.after (before ++ middle ++ later)).chosen.count s ≤
        (state.after (before ++ middle)).chosen.count s) ∧
    ∀ before suites later,
      (∀ s ∈ (state.after (before ++ .modify .ban suites :: later)).chosen,
        s ∉ (state.after (before ++ .modify .ban suites :: later)).banned) ∧
      (state.after (before ++ .modify .ban suites :: later)).suites =
        (state.after (before ++ .modify .ban suites :: later)).chosen := by
  refine ⟨state.count_chosen_after_le_max, state.perm_chosen_moveToEnd,
    state.perm_chosen_sortByStrength, fun effect => banned_act_of_ne_ban,
    fun suites s => mem_banned_ban, ?_, ?_⟩
  · intro before middle later s hs
    rw [after_append _ (before ++ middle)]
    apply count_chosen_after_le
    rw [after_append]
    exact mem_banned_after_of_mem hs middle
  · intro before suites later
    have hdisjoint : ∀ s ∈ (state.after (before ++ .modify .ban suites :: later)).chosen,
        s ∉ (state.after (before ++ .modify .ban suites :: later)).banned := by
      rw [after_append]
      exact not_mem_banned_after (fun s hs => not_mem_banned_ban hs) later
    refine ⟨hdisjoint, List.filter_eq_self.mpr ?_⟩
    simpa using hdisjoint

theorem effects_from_strained :
    (strained.act .sort).banned = strained.banned ∧
    (strained.after [.modify .delete [⟨"rsa", "null", "sha", "default_prf"⟩],
      .modify .append [⟨"rsa", "null", "sha", "default_prf"⟩], .sort]).chosen.count
        ⟨"rsa", "null", "sha", "default_prf"⟩ ≤
      (strained.after [.modify .delete [⟨"rsa", "null", "sha", "default_prf"⟩]]).chosen.count
        ⟨"rsa", "null", "sha", "default_prf"⟩ ∧
    (strained.after [.modify .delete [⟨"rsa", "null", "sha", "default_prf"⟩]]).chosen.count
      ⟨"rsa", "null", "sha", "default_prf"⟩ = 0 ∧
    (strained.after [.modify .ban [],
      .modify .append [⟨"rsa", "null", "sha", "default_prf"⟩]]).suites =
        [⟨"rsa", "aes_128_cbc", "sha", "default_prf"⟩] := by
  obtain ⟨-, -, -, hbanned, -, hout, hban⟩ := effects_from_anywhere strained
  refine ⟨hbanned .sort nofun, ?_, by decide, ?_⟩
  · apply hout [] [.modify .delete _] [.modify .append _, .sort]
    decide
  · exact (hban [] [] [.modify .append _]).2.trans (by decide)

end Selection

end CipherString
