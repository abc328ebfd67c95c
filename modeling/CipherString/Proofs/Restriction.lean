import CipherString.Proofs.Effect
import CipherString.Proofs.StrengthOrder

namespace CipherString

/-- A selection with only those suites in it, or shut out of it, that satisfy `p`. -/
def Selection.restrict (p : Suite → Bool) (state : Selection) : Selection :=
  ⟨state.chosen.filter p, state.banned.filter p⟩

def Effect.restrict (p : Suite → Bool) : Effect → Effect
  | .sort => .sort
  | .idle => .idle
  | .modify modifier suites => .modify modifier (suites.filter p)

namespace Selection

variable (p : Suite → Bool)

@[simp] theorem chosen_restrict (state : Selection) :
    (state.restrict p).chosen = state.chosen.filter p := rfl

@[simp] theorem banned_restrict (state : Selection) :
    (state.restrict p).banned = state.banned.filter p := rfl

theorem ext_of_chosen_of_toList_banned {state other : Selection}
    (hchosen : state.chosen = other.chosen)
    (hbanned : state.banned.toList = other.banned.toList) : state = other := by
  cases state
  cases other
  have hbanned := Distinct.ext hbanned
  simp only at hchosen hbanned
  rw [hchosen, hbanned]

variable {p} in
theorem filter_filter_congr {q r : Suite → Bool} (h : ∀ s, p s = true → q s = r s)
    (l : List Suite) : (l.filter q).filter p = (l.filter p).filter r := by
  rw [List.filter_filter, List.filter_filter]
  refine List.filter_congr fun s _ => ?_
  cases hs : p s with
  | false => simp
  | true => simp [h s hs]

theorem restrict_append (state : Selection) (suites : List Suite) :
    (state.append suites).restrict p = (state.restrict p).append (suites.filter p) := by
  refine ext_of_chosen_of_toList_banned ?_ rfl
  have hnew : ∀ s, p s = true →
      decide (s ∉ state.chosen ∧ s ∉ state.banned) =
        decide (s ∉ state.chosen.filter p ∧ s ∉ state.banned.filter p) := by
    intro s hs
    simp [hs]
  simp only [append, chosen_restrict, banned_restrict, List.filter_append, Distinct.filter_firsts,
    filter_filter_congr hnew]
  rfl

theorem restrict_ban (state : Selection) (suites : List Suite) :
    (state.ban suites).restrict p = (state.restrict p).ban (suites.filter p) := by
  refine ext_of_chosen_of_toList_banned ?_ ?_
  · refine filter_filter_congr (fun s hs => ?_) state.chosen
    simp [hs]
  · have hnew : ∀ s, p s = true →
        decide (s ∉ state.banned) = decide (s ∉ state.banned.filter p) := by
      intro s hs
      simp [hs]
    simp only [ban, banned_restrict, Distinct.toList_filter, Distinct.toList_addAll,
      List.filter_append, Distinct.filter_firsts, filter_filter_congr hnew]

theorem restrict_delete (state : Selection) (suites : List Suite) :
    (state.delete suites).restrict p = (state.restrict p).delete (suites.filter p) := by
  refine ext_of_chosen_of_toList_banned ?_ rfl
  refine filter_filter_congr (fun s hs => ?_) state.chosen
  simp [hs]

theorem restrict_moveToEnd (state : Selection) (suites : List Suite) :
    (state.moveToEnd suites).restrict p = (state.restrict p).moveToEnd (suites.filter p) := by
  refine ext_of_chosen_of_toList_banned ?_ rfl
  have hstay : ∀ s, p s = true → decide (s ∉ suites) = decide (s ∉ suites.filter p) := by
    intro s hs
    simp [hs]
  have hmove : ∀ s, p s = true → decide (s ∈ suites) = decide (s ∈ suites.filter p) := by
    intro s hs
    simp [hs]
  simp only [moveToEnd, chosen_restrict, List.filter_append, filter_filter_congr hstay,
    filter_filter_congr hmove]

theorem restrict_sortByStrength (state : Selection) :
    state.sortByStrength.restrict p = (state.restrict p).sortByStrength :=
  ext_of_chosen_of_toList_banned (filter_chosen_sortByStrength p state) rfl

theorem restrict_act (state : Selection) (effect : Effect) :
    (state.act effect).restrict p = (state.restrict p).act (effect.restrict p) := by
  cases effect with
  | sort => exact restrict_sortByStrength p state
  | idle => rfl
  | modify modifier suites =>
      cases modifier with
      | append => exact restrict_append p state suites
      | ban => exact restrict_ban p state suites
      | delete => exact restrict_delete p state suites
      | moveToEnd => exact restrict_moveToEnd p state suites

end Selection

theorem Interpreter.restrict_play (interpreter : Interpreter) (p : Suite → Bool)
    (state : Selection) (tokens : List String) :
    (interpreter.play state tokens).restrict p =
      tokens.foldl (fun state token => state.act ((interpreter.effect token).restrict p))
        (state.restrict p) := by
  induction tokens generalizing state with
  | nil => rfl
  | cons token tokens ih => rw [play_cons, ih, Selection.restrict_act, List.foldl_cons]

end CipherString
