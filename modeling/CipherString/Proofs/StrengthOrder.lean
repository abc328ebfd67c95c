import CipherString.Selection

namespace CipherString

section MergeSort

variable {α : Type} {le : α → α → Bool}

/-- An element in front of a list is sorted in directly before the first that it does not have to
stand behind. -/
theorem mergeSort_cons_eq (trans : ∀ a b c, le a b → le b c → le a c)
    (total : ∀ a b, le a b || le b a) (a : α) (l : List α) :
    (a :: l).mergeSort le =
      (l.mergeSort le).filter (fun b => !le a b) ++ a :: (l.mergeSort le).filter (le a ·) := by
  obtain ⟨front, back, hcons, hl, hfront⟩ := List.mergeSort_cons trans total a l
  have hsorted := List.pairwise_mergeSort trans total (a :: l)
  rw [hcons] at hsorted
  have hback : ∀ b ∈ back, le a b = true :=
    (List.pairwise_cons.mp (List.pairwise_append.mp hsorted).2.1).1
  have hfront' : front.filter (le a ·) = [] := by
    rw [List.filter_eq_nil_iff]
    intro b hb
    simpa using hfront b hb
  have hback' : back.filter (fun b => !le a b) = [] := by
    rw [List.filter_eq_nil_iff]
    intro b hb
    simp [hback b hb]
  rw [hcons, hl, List.filter_append, List.filter_append, hfront', hback',
    List.filter_eq_self.mpr hfront, List.filter_eq_self.mpr hback, List.append_nil,
    List.nil_append]

/-- Leaving elements out before a stable sort or after it makes no difference. -/
theorem filter_mergeSort (trans : ∀ a b c, le a b → le b c → le a c)
    (total : ∀ a b, le a b || le b a) (p : α → Bool) (l : List α) :
    (l.mergeSort le).filter p = (l.filter p).mergeSort le := by
  induction l with
  | nil => simp
  | cons a l ih =>
      cases hp : p a with
      | true =>
          rw [List.filter_cons_of_pos hp, mergeSort_cons_eq trans total,
            mergeSort_cons_eq trans total, List.filter_append, List.filter_cons_of_pos hp, ← ih,
            List.filter_filter, List.filter_filter, List.filter_filter, List.filter_filter]
          simp only [Bool.and_comm]
      | false =>
          have hnot : ¬ p a := by simp [hp]
          obtain ⟨front, back, hcons, hl, -⟩ := List.mergeSort_cons trans total a l
          rw [List.filter_cons_of_neg hnot, ← ih, hcons, hl, List.filter_append,
            List.filter_cons_of_neg hnot, ← List.filter_append]

theorem mem_iff_of_filter_key_eq {key : α → Nat} {l m : List α}
    (hfilter : ∀ k, l.filter (key · = k) = m.filter (key · = k)) (a : α) : a ∈ l ↔ a ∈ m := by
  have ha := congrArg (a ∈ ·) (hfilter (key a))
  simpa using ha

/-- A list in descending order of a key is known by its elements of each key, in their order. -/
theorem eq_of_filter_key_eq {key : α → Nat} {l m : List α}
    (hl : l.Pairwise fun a b => key b ≤ key a) (hm : m.Pairwise fun a b => key b ≤ key a)
    (hfilter : ∀ k, l.filter (key · = k) = m.filter (key · = k)) : l = m := by
  induction l generalizing m with
  | nil =>
      refine (List.eq_nil_iff_forall_not_mem.mpr fun a ha => ?_).symm
      exact List.not_mem_nil ((mem_iff_of_filter_key_eq hfilter a).mpr ha)
  | cons a l ih =>
      have ha := (mem_iff_of_filter_key_eq hfilter a).mp List.mem_cons_self
      cases m with
      | nil => exact absurd ha List.not_mem_nil
      | cons b m =>
          have hb := (mem_iff_of_filter_key_eq hfilter b).mpr List.mem_cons_self
          obtain ⟨hal, hltail⟩ := List.pairwise_cons.mp hl
          obtain ⟨hbm, hmtail⟩ := List.pairwise_cons.mp hm
          -- Each of the two heads is in the other list, so neither has the smaller key.
          have hkey : key a = key b := by
            apply Nat.le_antisymm
            · rcases List.mem_cons.mp ha with rfl | ha
              · exact Nat.le_refl _
              · exact hbm a ha
            · rcases List.mem_cons.mp hb with rfl | hb
              · exact Nat.le_refl _
              · exact hal b hb
          have hhead := hfilter (key a)
          rw [List.filter_cons_of_pos (by simp), List.filter_cons_of_pos (by simp [hkey])] at hhead
          obtain ⟨rfl, -⟩ := List.cons.inj hhead
          refine congrArg (a :: ·) (ih hltail hmtail fun k => ?_)
          have hk := hfilter k
          rw [List.filter_cons, List.filter_cons] at hk
          split at hk
          · exact (List.cons.inj hk).2
          · exact hk

end MergeSort

namespace Selection

theorem strength_trans (s t u : Suite) (h : decide (t.strength ≤ s.strength) = true)
    (h' : decide (u.strength ≤ t.strength) = true) : decide (u.strength ≤ s.strength) = true := by
  simp only [decide_eq_true_eq] at h h' ⊢
  exact Nat.le_trans h' h

theorem strength_total (s t : Suite) :
    (decide (t.strength ≤ s.strength) || decide (s.strength ≤ t.strength)) = true := by
  simp only [Bool.or_eq_true, decide_eq_true_eq]
  exact Nat.le_total _ _

theorem filter_chosen_sortByStrength (p : Suite → Bool) (state : Selection) :
    state.sortByStrength.chosen.filter p =
      (state.chosen.filter p).mergeSort fun s t => decide (t.strength ≤ s.strength) :=
  filter_mergeSort strength_trans strength_total p state.chosen

theorem pairwise_chosen_sortByStrength (state : Selection) :
    state.sortByStrength.chosen.Pairwise fun s t => t.strength ≤ s.strength := by
  have hsorted := List.pairwise_mergeSort strength_trans strength_total state.chosen
  simp only [decide_eq_true_eq] at hsorted
  exact hsorted

theorem sortByStrength_sortByStrength (state : Selection) :
    state.sortByStrength.sortByStrength = state.sortByStrength := by
  have hsorted := List.pairwise_mergeSort strength_trans strength_total state.chosen
  have hchosen := List.mergeSort_of_pairwise hsorted
  rw [sortByStrength, sortByStrength, hchosen]

theorem pair_sublist_sortByStrength {state : Selection} {a b : Suite}
    (hstrength : b.strength ≤ a.strength) (h : [a, b].Sublist state.chosen) :
    [a, b].Sublist state.sortByStrength.chosen :=
  List.pair_sublist_mergeSort strength_trans strength_total (decide_eq_true hstrength) h

end Selection

end CipherString
