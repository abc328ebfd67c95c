import CipherString.Proofs.Inversion

namespace CipherString

namespace Host

variable {l m : List String} {name : String}

theorem offers_append (l m : List String) :
    offers (l ++ m) = offers l ++ (offers m).filter (· ∉ offers l) := by
  rw [offers, List.filterMap_append, Distinct.firsts_append]
  refine congrArg (offers l ++ ·) (List.filter_congr fun s _ => ?_)
  simp only [offers, Distinct.mem_firsts]

/-- A name brings nothing after others: it is one of them, or the built-in table does not know
it. -/
def IsIdle (before : List String) (name : String) : Prop :=
  name ∉ Catalog.builtinNames.names ∨ name ∈ before

instance (before : List String) (name : String) : Decidable (IsIdle before name) :=
  inferInstanceAs (Decidable (_ ∨ _))

theorem suiteNamed_builtinNames_eq_none_iff :
    Catalog.builtinNames.suiteNamed name = none ↔ name ∉ Catalog.builtinNames.names := by
  rw [← NameTable.isSome_suiteNamed_iff, Option.not_isSome_iff_eq_none]

theorem offers_concat_of_isIdle (h : IsIdle l name) : offers (l ++ [name]) = offers l := by
  cases hsuite : Catalog.builtinNames.suiteNamed name with
  | none =>
      rw [offers, List.filterMap_append, List.filterMap_cons_none hsuite, List.filterMap_nil,
        List.append_nil]
      rfl
  | some suite =>
      have hbefore : name ∈ l := by
        refine h.resolve_left fun hunknown => ?_
        rw [suiteNamed_builtinNames_eq_none_iff.mpr hunknown] at hsuite
        cases hsuite
      have hmem : suite ∈ l.filterMap Catalog.builtinNames.suiteNamed :=
        List.mem_filterMap.mpr ⟨name, hbefore, hsuite⟩
      rw [offers, List.filterMap_append, List.filterMap_cons_some hsuite, List.filterMap_nil,
        Distinct.firsts_concat_of_mem hmem]
      rfl

/-- The elements of a list at the places that are kept. -/
def remaining {α : Type} (keep : Nat → Bool) (l : List α) : List α :=
  (l.zipIdx.filter fun place => keep place.2).map Prod.fst

section Remaining

variable {α : Type} {l : List α} {a : α} {keep : Nat → Bool}

theorem remaining_concat_of_keep (h : keep l.length) :
    remaining keep (l ++ [a]) = remaining keep l ++ [a] := by
  simp [remaining, List.zipIdx_append, h]

theorem remaining_concat_of_drop (h : keep l.length = false) :
    remaining keep (l ++ [a]) = remaining keep l := by
  simp [remaining, List.zipIdx_append, h]

end Remaining

/-- Any number of idle names may be left out at once: whether one is idle is a matter of all names
before it, be they left out or not. -/
theorem offers_remaining {keep : Nat → Bool}
    (h : ∀ place ∈ l.zipIdx, keep place.2 = false → IsIdle (l.take place.2) place.1) :
    offers (remaining keep l) = offers l := by
  -- By the last name: what is before the other places is then the same in the shorter list.
  induction l using List.reverseRecOn with
  | nil => rfl
  | append_singleton l name ih =>
      rw [List.zipIdx_append, List.forall_mem_append] at h
      obtain ⟨hbefore, hname⟩ := h
      have hold : offers (remaining keep l) = offers l := by
        refine ih fun place hplace hdrop => ?_
        have hle : place.2 ≤ l.length := by
          have hlt := List.snd_lt_of_mem_zipIdx hplace
          omega
        have hidle := hbefore place hplace hdrop
        rwa [List.take_append_of_le_length hle] at hidle
      cases hkeep : keep l.length with
      | true => rw [remaining_concat_of_keep hkeep, offers_append, offers_append, hold]
      | false =>
          have hidle : IsIdle l name := by
            simpa using hname (name, l.length) (by simp) hkeep
          rw [remaining_concat_of_drop hkeep, hold, offers_concat_of_isIdle hidle]

section Entries

variable {room : Nat} {entries more : List HostEntry} {names moreNames : List String}

theorem Named.append (h : Named room entries names) (hmore : Named room more moreNames) :
    Named room (entries ++ more) (names ++ moreNames) :=
  List.rel_append h hmore

theorem Named.remaining (h : Named room entries names) (keep : Nat → Bool) :
    Named room (remaining keep entries) (remaining keep names) := by
  have hfrom : ∀ start, Named room
      (((entries.zipIdx start).filter fun place => keep place.2).map Prod.fst)
      (((names.zipIdx start).filter fun place => keep place.2).map Prod.fst) := by
    induction h with
    | nil => exact fun _ => .nil
    | @cons entry name entries names hname _ ih =>
        intro start
        simp only [List.zipIdx_cons, List.filter_cons]
        split
        · exact .cons hname (ih (start + 1))
        · exact ih (start + 1)
  exact hfrom 0

theorem notices_suitesAfter (h : Named room entries names) (source : String)
    (seen : List Suite) : (suitesAfter room source seen entries).notices =
      (names.filter (· ∉ Catalog.builtinNames.names)).map (.hostEntrySkipped · source) := by
  induction h generalizing seen with
  | nil => rfl
  | @cons entry name entries names hname _ ih =>
      rcases suitesAfter_cases hname source seen entries with
        ⟨hsuite, heq⟩ | ⟨suite, hsuite, hseen⟩
      · have hunknown := suiteNamed_builtinNames_eq_none_iff.mp hsuite
        rw [heq, List.filter_cons_of_pos (by simpa using hunknown), List.map_cons, ← ih seen]
        exact congrArg Logged.notices (Logged.bind_of_ok rfl _)
      · have hknown : name ∈ Catalog.builtinNames.names := by
          rw [← NameTable.isSome_suiteNamed_iff, hsuite]
          rfl
        rw [List.filter_cons_of_neg (by simpa using hknown)]
        rcases hseen with ⟨-, heq⟩ | ⟨-, heq⟩
        · rw [heq, ih seen]
        · rw [heq, bind_pure_comp, Logged.notices_map, ih (suite :: seen)]

/-- At an entry whose name cannot be shown nothing more happens, and what was reported remains. -/
theorem suitesAfter_append_of_error (h : Named room entries names) {entry : HostEntry}
    {fault : Fault} (hfault : entry.name room = .error fault) (source : String)
    (seen : List Suite) (more : List HostEntry) :
    suitesAfter room source seen (entries ++ entry :: more) =
      ⟨(suitesAfter room source seen entries).notices, .error fault⟩ := by
  induction h generalizing seen with
  | nil =>
      rw [List.nil_append, suitesAfter_cons, hfault, Logged.ofExcept_error]
      rfl
  | @cons other name entries names hname _ ih =>
      rw [List.cons_append, suitesAfter_cons, suitesAfter_cons, hname, Logged.ofExcept_ok,
        pure_bind, pure_bind]
      cases Catalog.builtinNames.suiteNamed name with
      | none =>
          dsimp only
          rw [ih, Logged.bind_of_ok rfl, Logged.bind_of_ok rfl]
      | some suite =>
          dsimp only
          split
          · exact ih seen
          · rw [ih, Logged.bind_of_error rfl, bind_pure_comp, Logged.notices_map]

end Entries

/-- The suites of entries whose names can be shown are those of their names, each once and where it
first appears. Those of two lists are the suites of the first, and behind them those of the second
that are new. They stay the same without any number of entries whose name the built-in table does
not know or has come before. Each name that the table does not know, and no other, is reported once,
at the lowest level and in the order of the entries, however often it comes. A name that cannot be
shown is a fault, and what was reported before it remains. -/
theorem suitesOf_incremental {room : Nat} (source : String) {entries more : List HostEntry}
    {names moreNames : List String} (hnames : Named room entries names)
    (hmoreNames : Named room more moreNames) :
    ∃ found later,
      (suitesOf room source entries).outcome = .ok found ∧
      (suitesOf room source more).outcome = .ok later ∧
      (suitesOf room source (entries ++ more)).outcome =
        .ok (found ++ later.filter (· ∉ found)) ∧
      Distinct.IsFirsts (names.filterMap Catalog.builtinNames.suiteNamed) found ∧
      (∀ keep : Nat → Bool,
        (∀ place ∈ names.zipIdx, keep place.2 = false →
          IsIdle (names.take place.2) place.1) →
        (suitesOf room source (remaining keep entries)).outcome = .ok found) ∧
      (suitesOf room source entries).notices =
        (names.filter (· ∉ Catalog.builtinNames.names)).map (.hostEntrySkipped · source) ∧
      (∀ notice ∈ (suitesOf room source entries).notices, notice.level = .debug) ∧
      ∀ entry fault after, entry.name room = .error fault →
        suitesOf room source (entries ++ entry :: after) =
          ⟨(suitesOf room source entries).notices, .error fault⟩ := by
  refine ⟨offers names, offers moreNames, outcome_suitesOf hnames source,
    outcome_suitesOf hmoreNames source, ?_, Distinct.isFirsts_firsts _, ?_,
    notices_suitesAfter hnames source [], ?_, ?_⟩
  · rw [outcome_suitesOf (hnames.append hmoreNames), offers_append]
  · intro keep hidle
    rw [outcome_suitesOf (hnames.remaining keep), offers_remaining hidle]
  · intro notice hnotice
    rw [suitesOf, notices_suitesAfter hnames] at hnotice
    obtain ⟨name, -, rfl⟩ := List.mem_map.mp hnotice
    rfl
  · intro entry fault after hfault
    exact suitesAfter_append_of_error hnames hfault source [] after

/-- Without its second, third, fifth and last entry a host offers the same. -/
theorem suitesOf_incremental_of_raggedHost :
    Named 0 (Interpreter.raggedHost.entries "") Interpreter.raggedNames ∧
    (∀ place ∈ Interpreter.raggedNames.zipIdx, [0, 3].contains place.2 = false →
      IsIdle (Interpreter.raggedNames.take place.2) place.1) ∧
    ∃ found,
      (suitesOf 0 "all" (Interpreter.raggedHost.entries "")).outcome = .ok found ∧
      (suitesOf 0 "all" [⟨some (.text "AES128-SHA")⟩, ⟨some (.text "NULL-SHA")⟩]).outcome =
        .ok found ∧
      (suitesOf 0 "all" (Interpreter.raggedHost.entries "")).notices =
        [.hostEntrySkipped "" "all", .hostEntrySkipped "7" "all",
          .hostEntrySkipped "TLS_UNKNOWN" "all"] ∧
      suitesOf 0 "all" (Interpreter.raggedHost.entries "" ++ [⟨some (.list [.null])⟩]) =
        ⟨[.hostEntrySkipped "" "all", .hostEntrySkipped "7" "all",
          .hostEntrySkipped "TLS_UNKNOWN" "all"], .error .nestedTooDeep⟩ := by
  have hnames := Interpreter.named_raggedHost ""
  have hidle : ∀ place ∈ Interpreter.raggedNames.zipIdx, [0, 3].contains place.2 = false →
      IsIdle (Interpreter.raggedNames.take place.2) place.1 := by
    simp only [IsIdle, Catalog.names_builtinNames]
    decide +kernel
  obtain ⟨found, -, hfound, -, -, -, hremaining, hnotices, -, hfault⟩ :=
    suitesOf_incremental "all" hnames (.nil : Named 0 [] [])
  have hskipped : (suitesOf 0 "all" (Interpreter.raggedHost.entries "")).notices =
      [.hostEntrySkipped "" "all", .hostEntrySkipped "7" "all",
        .hostEntrySkipped "TLS_UNKNOWN" "all"] := by
    rw [hnotices]
    simp only [Catalog.names_builtinNames]
    decide +kernel
  refine ⟨hnames, hidle, found, hfound, hremaining [0, 3].contains hidle, hskipped, ?_⟩
  rw [hfault ⟨some (.list [.null])⟩ .nestedTooDeep [] rfl, hskipped]

end Host

end CipherString
