import CipherString.Proofs.Effect

namespace CipherString

namespace Selection

structure Coherent (state : Selection) : Prop where
  nodup : state.chosen.Nodup
  disjoint : ∀ s ∈ state.chosen, s ∉ state.banned

theorem coherent_empty : Selection.empty.Coherent :=
  ⟨List.nodup_nil, fun _ hs => absurd hs List.not_mem_nil⟩

theorem Coherent.suites_eq {state : Selection} (h : state.Coherent) :
    state.suites = state.chosen := by
  rw [suites, List.filter_eq_self]
  intro s hs
  simpa using h.disjoint s hs

theorem Coherent.append {state : Selection} (h : state.Coherent) (suites : List Suite) :
    (state.append suites).Coherent := by
  constructor
  · refine List.nodup_append.mpr ⟨h.nodup, Distinct.nodup_firsts _, ?_⟩
    rintro s hs t ht rfl
    simp only [Distinct.mem_firsts, List.mem_filter, decide_eq_true_eq] at ht
    exact ht.2.1 hs
  · intro s hs
    rw [mem_chosen_append] at hs
    rcases hs with hs | ⟨-, hs⟩
    · exact h.disjoint s hs
    · exact hs

theorem Coherent.ban {state : Selection} (h : state.Coherent) (suites : List Suite) :
    (state.ban suites).Coherent := by
  constructor
  · exact h.nodup.filter _
  · intro s hs
    exact not_mem_banned_ban hs

theorem Coherent.delete {state : Selection} (h : state.Coherent) (suites : List Suite) :
    (state.delete suites).Coherent := by
  constructor
  · exact h.nodup.filter _
  · intro s hs
    exact h.disjoint s (mem_chosen_delete.mp hs).1

theorem Coherent.moveToEnd {state : Selection} (h : state.Coherent) (suites : List Suite) :
    (state.moveToEnd suites).Coherent := by
  constructor
  · refine List.nodup_append.mpr ⟨h.nodup.filter _, h.nodup.filter _, ?_⟩
    rintro s hs t ht rfl
    simp only [List.mem_filter, decide_eq_true_eq] at hs ht
    exact hs.2 ht.2
  · intro s hs
    exact h.disjoint s (mem_chosen_moveToEnd.mp hs)

theorem Coherent.sortByStrength {state : Selection} (h : state.Coherent) :
    state.sortByStrength.Coherent := by
  constructor
  · exact (List.mergeSort_perm _ _).nodup_iff.mpr h.nodup
  · intro s hs
    exact h.disjoint s (mem_chosen_sortByStrength.mp hs)

theorem Coherent.act {state : Selection} (h : state.Coherent) (effect : Effect) :
    (state.act effect).Coherent := by
  cases effect with
  | sort => exact h.sortByStrength
  | idle => exact h
  | modify modifier suites =>
      cases modifier with
      | append => exact h.append suites
      | ban => exact h.ban suites
      | delete => exact h.delete suites
      | moveToEnd => exact h.moveToEnd suites

theorem mem_banned_act {state : Selection} {effect : Effect} {s : Suite} :
    s ∈ (state.act effect).banned ↔ s ∈ state.banned ∨ s ∈ effect.targets .ban := by
  cases effect with
  | sort => simp [Effect.targets]
  | idle => simp [Effect.targets]
  | modify modifier suites =>
      cases modifier with
      | ban => exact mem_banned_ban
      | append => simp [Effect.targets]
      | delete => simp [Effect.targets]
      | moveToEnd => simp [Effect.targets]

/-- One rule for all kinds of effects: a suite is in if it was in or is added now, and is neither
deleted now nor shut out. -/
theorem Coherent.mem_chosen_act {state : Selection} (h : state.Coherent) {effect : Effect}
    {s : Suite} :
    s ∈ (state.act effect).chosen ↔
      (s ∈ state.chosen ∨ s ∈ effect.targets .append) ∧ s ∉ effect.targets .delete ∧
        s ∉ (state.act effect).banned := by
  have hdisjoint := h.disjoint s
  cases effect with
  | sort =>
      simp only [act_sort, mem_chosen_sortByStrength, banned_sortByStrength, Effect.targets]
      grind
  | idle =>
      simp only [act_idle, Effect.targets]
      grind
  | modify modifier suites =>
      cases modifier with
      | append =>
          simp only [act_append, mem_chosen_append, banned_append, Effect.targets]
          grind
      | ban =>
          simp only [act_ban, mem_chosen_ban, mem_banned_ban, Effect.targets]
          grind
      | delete =>
          simp only [act_delete, mem_chosen_delete, banned_delete, Effect.targets]
          grind
      | moveToEnd =>
          simp only [act_moveToEnd, mem_chosen_moveToEnd, banned_moveToEnd, Effect.targets]
          grind

end Selection

namespace Interpreter

theorem coherent_play (interpreter : Interpreter) {state : Selection} (h : state.Coherent)
    (tokens : List String) : (interpreter.play state tokens).Coherent := by
  induction tokens generalizing state with
  | nil => exact h
  | cons token tokens ih => exact ih (h.act (interpreter.effect token))

theorem coherent_play_empty (interpreter : Interpreter) (tokens : List String) :
    (interpreter.play .empty tokens).Coherent :=
  interpreter.coherent_play Selection.coherent_empty tokens

theorem suites_play_empty (interpreter : Interpreter) (tokens : List String) :
    (interpreter.play .empty tokens).suites = (interpreter.play .empty tokens).chosen :=
  (interpreter.coherent_play_empty tokens).suites_eq

theorem mem_banned_play {interpreter : Interpreter} {state : Selection} {tokens : List String}
    {s : Suite} :
    s ∈ (interpreter.play state tokens).banned ↔
      s ∈ state.banned ∨ ∃ token ∈ tokens, s ∈ interpreter.targets .ban token := by
  induction tokens generalizing state with
  | nil => simp
  | cons token tokens ih =>
      rw [play_cons, ih, Selection.mem_banned_act, targets_effect, or_assoc]
      simp only [List.mem_cons, exists_eq_or_imp]

theorem mem_banned_play_empty {interpreter : Interpreter} {tokens : List String} {s : Suite} :
    s ∈ (interpreter.play .empty tokens).banned ↔
      ∃ token ∈ tokens, s ∈ interpreter.targets .ban token := by
  rw [mem_banned_play, Selection.banned_empty]
  simp only [Distinct.not_mem_empty, false_or]

end Interpreter

end CipherString
