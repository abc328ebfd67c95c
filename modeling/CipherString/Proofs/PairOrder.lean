import CipherString.Proofs.Invariant
import CipherString.Proofs.StrengthOrder

namespace CipherString

section Pairs

variable {α : Type} {a b : α} {l m : List α}

theorem pair_sublist_filter {p : α → Bool} (h : [a, b].Sublist l) (ha : p a = true)
    (hb : p b = true) : [a, b].Sublist (l.filter p) := by
  have hfilter := h.filter p
  rwa [List.filter_cons_of_pos ha, List.filter_cons_of_pos hb, List.filter_nil] at hfilter

theorem pair_sublist_append (ha : a ∈ l) (hb : b ∈ m) : [a, b].Sublist (l ++ m) :=
  (List.singleton_sublist.mpr ha).append (List.singleton_sublist.mpr hb)

theorem pair_sublist_or (ha : a ∈ l) (hb : b ∈ l) (hab : a ≠ b) :
    [a, b].Sublist l ∨ [b, a].Sublist l := by
  obtain ⟨front, back, rfl⟩ := List.append_of_mem ha
  rcases List.mem_append.mp hb with hb | hb
  · exact Or.inr (pair_sublist_append hb List.mem_cons_self)
  · have hb : b ∈ back := (List.mem_cons.mp hb).resolve_left hab.symm
    exact Or.inl (((List.singleton_sublist.mpr hb).cons_cons a).trans
      (List.sublist_append_right front (a :: back)))

theorem pair_sublist_of_pairwise {r : α → α → Prop} (hl : l.Pairwise r) (ha : a ∈ l) (hb : b ∈ l)
    (hab : a ≠ b) (hr : ¬ r b a) : [a, b].Sublist l := by
  refine (pair_sublist_or ha hb hab).resolve_right fun hba => hr ?_
  exact List.pairwise_pair.mp (hl.sublist hba)

theorem not_pair_sublist (hl : l.Nodup) (hab : [a, b].Sublist l) : ¬ [b, a].Sublist l := by
  induction l with
  | nil => simp at hab
  | cons c l ih =>
      obtain ⟨hc, hl⟩ := List.nodup_cons.mp hl
      intro hba
      cases hab with
      | cons _ hab =>
          cases hba with
          | cons _ hba => exact ih hl hab hba
          | cons_cons _ _ => exact hc (hab.subset (by simp))
      | cons_cons _ hb =>
          cases hba with
          | cons _ hba => exact hc (hba.subset (by simp))
          | cons_cons _ _ => exact hc (hb.subset (by simp))

end Pairs

/-- Whether an effect puts `a` in front of `b` if both are in: it sorts and `a` is the stronger, or
it moves `b` to the end and not `a`. -/
def Effect.Favours (a b : Suite) (effect : Effect) : Prop :=
  effect = .sort ∧ b.strength < a.strength ∨
    b ∈ effect.targets .moveToEnd ∧ a ∉ effect.targets .moveToEnd

namespace Selection

variable {state : Selection} {effect : Effect} {a b : Suite}

theorem pair_sublist_moveToEnd {suites : List Suite} (h : [a, b].Sublist state.chosen)
    (hsuites : ¬ (a ∈ suites ∧ b ∉ suites)) :
    [a, b].Sublist (state.moveToEnd suites).chosen := by
  have ha : a ∈ state.chosen := h.subset (by simp)
  have hb : b ∈ state.chosen := h.subset (by simp)
  by_cases hamoves : a ∈ suites
  · have hbmoves : b ∈ suites := Classical.not_not.mp fun hbstays => hsuites ⟨hamoves, hbstays⟩
    have hmoved := pair_sublist_filter (p := (· ∈ suites)) h (by simp [hamoves]) (by simp [hbmoves])
    exact hmoved.trans (List.sublist_append_right _ _)
  · by_cases hbmoves : b ∈ suites
    · refine pair_sublist_append ?_ ?_
      · simp [ha, hamoves]
      · simp [hb, hbmoves]
    · have hstayed := pair_sublist_filter (p := (· ∉ suites)) h (by simp [hamoves])
        (by simp [hbmoves])
      exact hstayed.trans (List.sublist_append_left _ _)

/-- A step that keeps two suites in keeps their order, unless it favours the one behind. -/
theorem pair_sublist_act (h : [a, b].Sublist state.chosen) (ha : a ∈ (state.act effect).chosen)
    (hb : b ∈ (state.act effect).chosen) (hfavours : ¬ effect.Favours b a) :
    [a, b].Sublist (state.act effect).chosen := by
  cases effect with
  | sort =>
      refine pair_sublist_sortByStrength ?_ h
      refine Nat.le_of_not_lt fun hlt => hfavours ?_
      exact Or.inl ⟨rfl, hlt⟩
  | idle => exact h
  | modify modifier suites =>
      cases modifier with
      | append => exact h.trans (List.sublist_append_left _ _)
      | ban => exact pair_sublist_filter h (List.mem_filter.mp ha).2 (List.mem_filter.mp hb).2
      | delete => exact pair_sublist_filter h (List.mem_filter.mp ha).2 (List.mem_filter.mp hb).2
      | moveToEnd => exact pair_sublist_moveToEnd h fun hmoves => hfavours (Or.inr hmoves)

theorem pair_sublist_act_of_favours (ha : a ∈ state.chosen) (hb : b ∈ state.chosen)
    (hfavours : effect.Favours a b) : [a, b].Sublist (state.act effect).chosen := by
  rcases hfavours with ⟨rfl, hstrength⟩ | ⟨hbmoves, hastays⟩
  · have hab : a ≠ b := by
      rintro rfl
      exact Nat.lt_irrefl _ hstrength
    have ha' : a ∈ state.sortByStrength.chosen := mem_chosen_sortByStrength.mpr ha
    have hb' : b ∈ state.sortByStrength.chosen := mem_chosen_sortByStrength.mpr hb
    exact pair_sublist_of_pairwise (pairwise_chosen_sortByStrength state) ha' hb' hab
      (Nat.not_le_of_lt hstrength)
  · cases effect with
    | sort => simp [Effect.targets] at hbmoves
    | idle => simp [Effect.targets] at hbmoves
    | modify modifier suites =>
        cases modifier with
        | append => simp [Effect.targets] at hbmoves
        | ban => simp [Effect.targets] at hbmoves
        | delete => simp [Effect.targets] at hbmoves
        | moveToEnd =>
            rw [Effect.targets, if_pos rfl] at hbmoves hastays
            refine pair_sublist_append ?_ ?_
            · simp [ha, hastays]
            · simp [hb, hbmoves]

theorem pair_sublist_append_of_new {suites : List Suite} (ha : a ∈ state.chosen)
    (hb : b ∉ state.chosen) (hb' : b ∈ (state.append suites).chosen) :
    [a, b].Sublist (state.append suites).chosen :=
  pair_sublist_append ha ((List.mem_append.mp hb').resolve_left hb)

theorem pair_sublist_append_iff {suites : List Suite} (hsuites : suites.Nodup)
    (ha : a ∉ state.chosen) (hb : b ∉ state.chosen) (ha' : a ∈ (state.append suites).chosen)
    (hb' : b ∈ (state.append suites).chosen) :
    [a, b].Sublist (state.append suites).chosen ↔ [a, b].Sublist suites := by
  have hnew : Distinct.firsts (suites.filter fun s => s ∉ state.chosen ∧ s ∉ state.banned) =
      suites.filter fun s => s ∉ state.chosen ∧ s ∉ state.banned :=
    Distinct.firsts_eq_self (hsuites.filter _)
  have ha' := (List.mem_append.mp ha').resolve_left ha
  have hb' := (List.mem_append.mp hb').resolve_left hb
  rw [hnew] at ha' hb'
  rw [append]
  simp only [hnew]
  constructor
  · intro h
    obtain ⟨front, back, hpair, hfront, hback⟩ := List.sublist_append_iff.mp h
    cases front with
    | nil =>
        rw [List.nil_append] at hpair
        subst hpair
        exact hback.trans List.filter_sublist
    | cons c front =>
        obtain ⟨rfl, -⟩ := List.cons.inj hpair
        exact absurd (hfront.subset List.mem_cons_self) ha
  · intro h
    have hpair := pair_sublist_filter (p := fun s => s ∉ state.chosen ∧ s ∉ state.banned) h
      (List.mem_filter.mp ha').2 (List.mem_filter.mp hb').2
    exact hpair.trans (List.sublist_append_right _ _)

end Selection

end CipherString
