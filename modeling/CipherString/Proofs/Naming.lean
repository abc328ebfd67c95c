import CipherString.Distinct
import CipherString.NameTable
import Mathlib.Data.List.Induction
import Mathlib.Data.List.Nodup

namespace CipherString

section Lookup

variable {α β : Type} [BEq α] [LawfulBEq α] {a : α} {b : β} {l : List (α × β)}

theorem isSome_lookup_iff : (l.lookup a).isSome ↔ a ∈ l.map Prod.fst := by
  rw [List.lookup_isSome_iff, List.mem_map]
  constructor
  · rintro ⟨entry, hentry, ha⟩
    exact ⟨entry, hentry, (eq_of_beq ha).symm⟩
  · rintro ⟨entry, hentry, rfl⟩
    exact ⟨entry, hentry, beq_self_eq_true _⟩

theorem mem_of_lookup_eq_some (h : l.lookup a = some b) : (a, b) ∈ l := by
  obtain ⟨before, after, rfl, -⟩ := List.lookup_eq_some_iff.mp h
  simp

theorem lookup_eq_some_iff_mem (hl : (l.map Prod.fst).Nodup) :
    l.lookup a = some b ↔ (a, b) ∈ l := by
  constructor
  · exact mem_of_lookup_eq_some
  · intro h
    obtain ⟨before, after, rfl⟩ := List.append_of_mem h
    refine List.lookup_eq_some_iff.mpr ⟨before, after, rfl, ?_⟩
    intro entry hentry
    rw [List.map_append, List.map_cons] at hl
    have hne := (List.nodup_append.mp hl).2.2 _ (List.mem_map_of_mem hentry) a List.mem_cons_self
    exact bne_iff_ne.mpr hne.symm

end Lookup

namespace NameTable

variable {t : NameTable} {name : String} {suite : Suite} {entries : List (String × Suite)}

theorem isSome_suiteNamed_iff : (t.suiteNamed name).isSome ↔ name ∈ t.names :=
  isSome_lookup_iff

theorem suiteNamed_eq_some_iff : t.suiteNamed name = some suite ↔ (name, suite) ∈ t.entries :=
  lookup_eq_some_iff_mem t.nodup

theorem mem_entries_of_nameOf (h : t.nameOf suite = some name) : (name, suite) ∈ t.entries := by
  obtain ⟨⟨name, other⟩, hfind, rfl⟩ := Option.map_eq_some_iff.mp h
  obtain rfl : other = suite := by simpa using List.find?_some hfind
  exact List.mem_reverse.mp (List.mem_of_find?_eq_some hfind)

/-- The name by which a suite is called denotes it. -/
theorem suiteNamed_of_nameOf (h : t.nameOf suite = some name) : t.suiteNamed name = some suite :=
  suiteNamed_eq_some_iff.mpr (mem_entries_of_nameOf h)

theorem mem_names_of_nameOf (h : t.nameOf suite = some name) : name ∈ t.names :=
  List.mem_map_of_mem (mem_entries_of_nameOf h)

theorem eq_of_nameOf_eq {other : Suite} (h : t.nameOf suite = some name)
    (hother : t.nameOf other = some name) : suite = other := by
  have hsuite := suiteNamed_of_nameOf h
  rw [suiteNamed_of_nameOf hother] at hsuite
  exact (Option.some.inj hsuite).symm

theorem nameOf_eq_none_iff :
    t.nameOf suite = none ↔ ∀ name, t.suiteNamed name ≠ some suite := by
  rw [nameOf, Option.map_eq_none_iff, List.find?_eq_none]
  constructor
  · intro h name hname
    have hentry := suiteNamed_eq_some_iff.mp hname
    exact h _ (List.mem_reverse.mpr hentry) (decide_eq_true rfl)
  · intro h entry hentry hsuite
    obtain rfl := of_decide_eq_true hsuite
    exact h entry.1 (suiteNamed_eq_some_iff.mpr (List.mem_reverse.mp hentry))

/-- In a table that gives no suite two names, a suite is called by any name that it has. -/
theorem nameOf_of_suiteNamed (hsuites : (t.entries.map Prod.snd).Nodup)
    (h : t.suiteNamed name = some suite) : t.nameOf suite = some name := by
  cases hname : t.nameOf suite with
  | none => exact absurd h (nameOf_eq_none_iff.mp hname name)
  | some other =>
      have hentry := suiteNamed_eq_some_iff.mp h
      have hother := mem_entries_of_nameOf hname
      have heq := List.inj_on_of_nodup_map hsuites hother hentry rfl
      exact congrArg (fun entry => some entry.1) heq

theorem put_of_not_mem (h : name ∉ entries.map Prod.fst) :
    put name suite entries = entries ++ [(name, suite)] := by
  induction entries with
  | nil => rfl
  | cons entry entries ih =>
      obtain ⟨hne, hrest⟩ := not_or.mp (mt List.mem_cons.mpr h)
      rw [put, if_neg (Ne.symm hne), ih hrest]
      rfl

theorem ofList_concat (pairs : List (String × Suite)) (name : String) (suite : Suite) :
    ofList (pairs ++ [(name, suite)]) = (ofList pairs).insert name suite :=
  List.foldl_append

/-- The names of a table stand where the list first has them. -/
theorem names_ofList (pairs : List (String × Suite)) :
    (ofList pairs).names = Distinct.firsts (pairs.map Prod.fst) := by
  induction pairs using List.reverseRecOn with
  | nil => rfl
  | append_singleton pairs pair ih =>
      obtain ⟨key, value⟩ := pair
      have hnames : (ofList (pairs ++ [(key, value)])).names =
          if key ∈ (ofList pairs).names then (ofList pairs).names
          else (ofList pairs).names ++ [key] := by
        rw [ofList_concat]
        exact names_put key value _
      rw [hnames, ih, List.map_append]
      by_cases h : key ∈ pairs.map Prod.fst
      · rw [if_pos (Distinct.mem_firsts.mpr h)]
        exact (Distinct.firsts_concat_of_mem h).symm
      · rw [if_neg (mt Distinct.mem_firsts.mp h)]
        exact (Distinct.firsts_concat_of_not_mem h).symm

theorem mem_names_ofList {pairs : List (String × Suite)} :
    name ∈ (ofList pairs).names ↔ name ∈ pairs.map Prod.fst := by
  rw [names_ofList, Distinct.mem_firsts]

/-- Where no name is repeated, the table is the list. -/
theorem entries_ofList {pairs : List (String × Suite)} (h : (pairs.map Prod.fst).Nodup) :
    (ofList pairs).entries = pairs := by
  induction pairs using List.reverseRecOn with
  | nil => rfl
  | append_singleton pairs pair ih =>
      obtain ⟨key, value⟩ := pair
      rw [List.map_append, List.nodup_append] at h
      obtain ⟨hpairs, -, hapart⟩ := h
      have hkey : key ∉ pairs.map Prod.fst := fun hmem =>
        hapart key hmem key (List.mem_singleton.mpr rfl) rfl
      rw [ofList_concat]
      show put key value (ofList pairs).entries = _
      rw [ih hpairs, put_of_not_mem hkey]

end NameTable

end CipherString
