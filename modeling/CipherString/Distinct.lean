namespace CipherString

structure Distinct (α : Type) where
  toList : List α
  nodup : toList.Nodup

namespace Distinct

variable {α : Type}

def empty : Distinct α :=
  ⟨[], List.nodup_nil⟩

instance : EmptyCollection (Distinct α) := ⟨empty⟩

instance : Inhabited (Distinct α) := ⟨empty⟩

instance : Membership α (Distinct α) := ⟨fun d a => a ∈ d.toList⟩

theorem mem_def {a : α} {d : Distinct α} : a ∈ d ↔ a ∈ d.toList := Iff.rfl

@[simp] theorem not_mem_empty (a : α) : a ∉ (∅ : Distinct α) :=
  List.not_mem_nil

@[ext] theorem ext {d e : Distinct α} (h : d.toList = e.toList) : d = e := by
  cases d; cases e; cases h; rfl

def size (d : Distinct α) : Nat :=
  d.toList.length

def filter (p : α → Bool) (d : Distinct α) : Distinct α :=
  ⟨d.toList.filter p, d.nodup.filter p⟩

@[simp] theorem toList_filter (p : α → Bool) (d : Distinct α) :
    (d.filter p).toList = d.toList.filter p := rfl

@[simp] theorem mem_filter {p : α → Bool} {a : α} {d : Distinct α} :
    a ∈ d.filter p ↔ a ∈ d ∧ p a = true :=
  List.mem_filter

variable [DecidableEq α]

instance : DecidableEq (Distinct α) := fun d e =>
  decidable_of_iff (d.toList = e.toList) ⟨ext, fun h => h ▸ rfl⟩

instance (a : α) (d : Distinct α) : Decidable (a ∈ d) :=
  inferInstanceAs (Decidable (a ∈ d.toList))

def firsts : List α → List α
  | [] => []
  | a :: l => a :: (firsts l).filter (· ≠ a)

@[simp] theorem mem_firsts {a : α} {l : List α} : a ∈ firsts l ↔ a ∈ l := by
  induction l with
  | nil => simp [firsts]
  | cons b l ih =>
    by_cases h : a = b
    · simp [firsts, h]
    · simp [firsts, h, ih]

theorem nodup_firsts (l : List α) : (firsts l).Nodup := by
  induction l with
  | nil => simp [firsts]
  | cons a l ih => exact List.nodup_cons.mpr ⟨by simp, ih.filter _⟩

theorem firsts_eq_self {l : List α} (h : l.Nodup) : firsts l = l := by
  induction l with
  | nil => rfl
  | cons a l ih =>
    obtain ⟨ha, hl⟩ := List.nodup_cons.mp h
    rw [firsts, ih hl, List.filter_eq_self.mpr]
    intro b hb
    simpa using fun hba : b = a => ha (hba ▸ hb)

theorem filter_firsts (p : α → Bool) (l : List α) :
    (firsts l).filter p = firsts (l.filter p) := by
  induction l with
  | nil => rfl
  | cons a l ih =>
      cases hp : p a with
      | true =>
          rw [firsts, List.filter_cons_of_pos hp, List.filter_cons_of_pos hp, firsts, ← ih,
            List.filter_filter, List.filter_filter]
          simp only [Bool.and_comm]
      | false =>
          have hkept : (firsts l).filter (fun b => p b && decide (b ≠ a)) =
              (firsts l).filter p := by
            refine List.filter_congr fun b _ => ?_
            by_cases hb : b = a
            · simp [hb, hp]
            · simp [hb]
          rw [firsts, List.filter_cons_of_neg (by simp [hp]), List.filter_cons_of_neg (by simp [hp]),
            List.filter_filter, hkept, ih]

/-- What comes later adds, at the end, what was not there yet. -/
theorem firsts_append (l m : List α) :
    firsts (l ++ m) = firsts l ++ (firsts m).filter (· ∉ l) := by
  induction l with
  | nil => exact (List.filter_eq_self.mpr (by simp)).symm
  | cons a l ih =>
      have hlater : ((firsts m).filter (· ∉ l)).filter (· ≠ a) =
          (firsts m).filter (· ∉ a :: l) := by
        rw [List.filter_filter]
        refine List.filter_congr fun b _ => ?_
        simp
      rw [List.cons_append, firsts, ih, List.filter_append, hlater]
      rfl

theorem firsts_concat_of_mem {a : α} {l : List α} (h : a ∈ l) : firsts (l ++ [a]) = firsts l := by
  simp [firsts_append, firsts, h]

theorem firsts_concat_of_not_mem {a : α} {l : List α} (h : a ∉ l) :
    firsts (l ++ [a]) = firsts l ++ [a] := by
  simp [firsts_append, firsts, h]

/-- A list with all but the first appearance of each element removed. -/
def ofList (l : List α) : Distinct α :=
  ⟨firsts l, nodup_firsts l⟩

@[simp] theorem toList_ofList (l : List α) : (ofList l).toList = firsts l := rfl

def addAll (d : Distinct α) (l : List α) : Distinct α :=
  ⟨d.toList ++ firsts (l.filter (· ∉ d)), by
    refine List.nodup_append.mpr ⟨d.nodup, nodup_firsts _, fun a ha b hb hab => ?_⟩
    simp only [mem_firsts, List.mem_filter, decide_eq_true_eq] at hb
    exact hb.2 (hab ▸ ha)⟩

theorem toList_addAll (d : Distinct α) (l : List α) :
    (d.addAll l).toList = d.toList ++ firsts (l.filter (· ∉ d)) := rfl

@[simp] theorem mem_addAll {a : α} {d : Distinct α} {l : List α} :
    a ∈ d.addAll l ↔ a ∈ d ∨ a ∈ l := by
  by_cases h : a ∈ d <;> simp_all [addAll, mem_def]

theorem addAll_of_forall_mem {d : Distinct α} {l : List α} (h : ∀ a ∈ l, a ∈ d) :
    d.addAll l = d := by
  have hnew : l.filter (· ∉ d) = [] := by
    rw [List.filter_eq_nil_iff]
    intro a ha
    simpa using h a ha
  apply ext
  rw [toList_addAll, hnew]
  exact List.append_nil d.toList

end Distinct

end CipherString
