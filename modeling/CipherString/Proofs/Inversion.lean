import CipherString.Proofs.Construction
import CipherString.Proofs.Hosting

namespace CipherString

namespace NameTable

variable {t : NameTable} {name : String} {suite : Suite}

theorem lookup_cons_ite (key : String) (value : Suite) (entries : List (String × Suite))
    (name : String) :
    ((key, value) :: entries).lookup name =
      if name = key then some value else entries.lookup name := by
  rw [List.lookup_cons]
  split
  · next h => rw [if_pos (eq_of_beq h)]
  · next h => rw [if_neg (beq_eq_false_iff_ne.mp h)]

theorem lookup_put (name : String) (suite : Suite) (entries : List (String × Suite))
    (other : String) :
    (put name suite entries).lookup other =
      if other = name then some suite else entries.lookup other := by
  induction entries with
  | nil => exact lookup_cons_ite name suite [] other
  | cons entry entries ih =>
      obtain ⟨key, value⟩ := entry
      rw [put, lookup_cons_ite]
      split
      · next hkey =>
          obtain rfl : key = name := hkey
          rw [lookup_cons_ite]
          by_cases h : other = key
          · rw [if_pos h, if_pos h]
          · rw [if_neg h, if_neg h, if_neg h]
      · next hkey =>
          rw [lookup_cons_ite, ih]
          by_cases h : other = key
          · rw [if_pos h, if_pos h, if_neg (h ▸ hkey)]
          · rw [if_neg h, if_neg h]

/-- Of the suites that a list gives a name, the table has the last one. -/
theorem suiteNamed_ofList (pairs : List (String × Suite)) (name : String) :
    (ofList pairs).suiteNamed name = pairs.reverse.lookup name := by
  induction pairs using List.reverseRecOn with
  | nil => rfl
  | append_singleton pairs pair ih =>
      obtain ⟨key, value⟩ := pair
      rw [ofList_concat, List.reverse_concat, lookup_cons_ite, ← ih]
      exact lookup_put key value _ name

/-- A name denotes a suite, and none of the names after it does. -/
def IsLastName (t : NameTable) (suite : Suite) (name : String) : Prop :=
  t.suiteNamed name = some suite ∧ ∃ before after, t.names = before ++ name :: after ∧
    ∀ other ∈ after, t.suiteNamed other ≠ some suite

theorem isLastName_of_nameOf (h : t.nameOf suite = some name) : IsLastName t suite name := by
  refine ⟨suiteNamed_of_nameOf h, ?_⟩
  obtain ⟨⟨key, value⟩, hfind, rfl⟩ := Option.map_eq_some_iff.mp h
  obtain ⟨-, later, earlier, hreverse, hlater⟩ := List.find?_eq_some_iff_append.mp hfind
  have hentries : t.entries = earlier.reverse ++ (key, value) :: later.reverse := by
    rw [← List.reverse_reverse t.entries, hreverse]
    simp
  refine ⟨earlier.reverse.map Prod.fst, later.reverse.map Prod.fst, ?_, ?_⟩
  · rw [names, hentries, List.map_append, List.map_cons]
  · intro other hother hsuite
    obtain ⟨entry, hentry, rfl⟩ := List.mem_map.mp hother
    have hmem : entry ∈ t.entries := by
      rw [hentries]
      exact List.mem_append_right _ (List.mem_cons_of_mem _ hentry)
    rw [suiteNamed_eq_some_iff.mpr hmem, Option.some.injEq] at hsuite
    simpa [hsuite] using hlater entry (List.mem_reverse.mp hentry)

/-- There is only one last name: of two, neither comes after the other. -/
theorem IsLastName.eq {other : String} (h : IsLastName t suite name)
    (hother : IsLastName t suite other) : name = other := by
  obtain ⟨hname, before, after, hnames, hafter⟩ := h
  obtain ⟨hother, front, back, hsplit, hback⟩ := hother
  rcases List.append_eq_append_iff.mp (hnames.symm.trans hsplit) with
    ⟨between, -, hbetween⟩ | ⟨between, -, hbetween⟩
  · rcases List.cons_eq_append_iff.mp hbetween with ⟨-, hcons⟩ | ⟨rest, -, hrest⟩
    · exact (List.cons.inj hcons).1.symm
    · exact absurd hother (hafter other (by simp [hrest]))
  · rcases List.cons_eq_append_iff.mp hbetween with ⟨-, hcons⟩ | ⟨rest, -, hrest⟩
    · exact (List.cons.inj hcons).1
    · exact absurd hname (hback name (by simp [hrest]))

theorem nameOf_eq_some_iff : t.nameOf suite = some name ↔ IsLastName t suite name := by
  constructor
  · exact isLastName_of_nameOf
  · intro h
    cases hname : t.nameOf suite with
    | none => exact absurd h.1 (nameOf_eq_none_iff.mp hname name)
    | some other => rw [h.eq (isLastName_of_nameOf hname)]

/-- Names come back from their suites exactly if no suite has two of them. -/
theorem nameOf_inverts_iff :
    (∀ name suite, t.suiteNamed name = some suite → t.nameOf suite = some name) ↔
      ∀ name other suite, t.suiteNamed name = some suite → t.suiteNamed other = some suite →
        name = other := by
  constructor
  · intro h name other suite hname hother
    exact Option.some.inj ((h name suite hname).symm.trans (h other suite hother))
  · intro h name suite hname
    cases hcalled : t.nameOf suite with
    | none => exact absurd hname (nameOf_eq_none_iff.mp hcalled name)
    | some other => rw [h name other suite hname (suiteNamed_of_nameOf hcalled)]

end NameTable

namespace Catalog

theorem names_of_ofData {room : Nat} {all offered : List Datum} {names : NameTable} {c : Catalog}
    (h : ofData room all offered names = .ok c) : c.names = names := by
  rw [ofData] at h
  cases hall : all.mapM (Suite.ofDatum room) with
  | error fault =>
      rw [hall] at h
      cases h
  | ok suites =>
      cases hoffered : offered.mapM (Suite.ofDatum room) with
      | error fault =>
          rw [hall, hoffered] at h
          cases h
      | ok defaults =>
          rw [hall, hoffered] at h
          cases h
          rfl

theorem eq_of_suiteNamed_builtinNames {name other : String} {suite : Suite}
    (hname : builtinNames.suiteNamed name = some suite)
    (hother : builtinNames.suiteNamed other = some suite) : name = other :=
  NameTable.nameOf_inverts_iff.mp (fun _ _ => nameOf_builtinNames) name other suite hname hother

/-- A catalog whose names are given by a list of pairs has each name in its first place, with the
last suite that it is given. A suite is called by the last name that denotes it in the order of the
table, if there is one; no two suites are called alike; and every name comes back from its suite
exactly if no two names denote one suite. So it is with the built-in table, of which nothing is
lost. -/
theorem nameOf_inverts (room : Nat) (pairs : List (String × Suite)) (all offered : List Datum)
    (c : Catalog) (h : ofData room all offered (.ofList pairs) = .ok c) :
    Distinct.IsFirsts (pairs.map Prod.fst) c.names.names ∧
    (∀ name, c.suiteNamed name = pairs.reverse.lookup name) ∧
    (∀ suite, c.nameOf suite = none ↔ ∀ name, c.suiteNamed name ≠ some suite) ∧
    (∀ suite name, c.nameOf suite = some name ↔ c.names.IsLastName suite name) ∧
    (∀ suite other name, c.nameOf suite = some name → c.nameOf other = some name →
      suite = other) ∧
    ((∀ name suite, c.suiteNamed name = some suite → c.nameOf suite = some name) ↔
      ∀ name other suite, c.suiteNamed name = some suite → c.suiteNamed other = some suite →
        name = other) ∧
    builtin.names.entries = builtinEntries ∧
    (∀ name other suite, builtin.suiteNamed name = some suite →
      builtin.suiteNamed other = some suite → name = other) ∧
    ∀ name suite, builtin.suiteNamed name = some suite → builtin.nameOf suite = some name := by
  have hnames := names_of_ofData h
  refine ⟨?_, ?_, ?_, ?_, ?_, ?_, entries_builtinNames, ?_, ?_⟩
  · rw [hnames, NameTable.names_ofList]
    exact Distinct.isFirsts_firsts _
  · intro name
    rw [suiteNamed, hnames, NameTable.suiteNamed_ofList]
  · exact fun suite => NameTable.nameOf_eq_none_iff
  · exact fun suite name => NameTable.nameOf_eq_some_iff
  · exact fun suite other name => NameTable.eq_of_nameOf_eq
  · exact NameTable.nameOf_inverts_iff
  · exact fun name other suite => eq_of_suiteNamed_builtinNames
  · exact fun name suite => nameOf_builtinNames

/-- A name that changes its suite leaves the old one without a name, and comes before the name that
its new suite has already. -/
theorem nameOf_inverts_of_orphan :
    ∃ c, ofData 0 [] [] (.ofList
        [("A", ⟨"rsa", "null", "md5", "default_prf"⟩), ("B", ⟨"rsa", "null", "sha", "default_prf"⟩),
          ("A", ⟨"rsa", "null", "sha", "default_prf"⟩)]) = .ok c ∧
      c.nameOf ⟨"rsa", "null", "md5", "default_prf"⟩ = none ∧
      c.nameOf ⟨"rsa", "null", "sha", "default_prf"⟩ = some "B" ∧
      ¬ ∀ name suite, c.suiteNamed name = some suite → c.nameOf suite = some name := by
  obtain ⟨-, -, hnone, hsome, -, hinverts, -⟩ := nameOf_inverts 0
    [("A", ⟨"rsa", "null", "md5", "default_prf"⟩), ("B", ⟨"rsa", "null", "sha", "default_prf"⟩),
      ("A", ⟨"rsa", "null", "sha", "default_prf"⟩)] [] [] _ rfl
  refine ⟨_, rfl, (hnone _).mpr ?_, (hsome _ _).mpr ⟨rfl, ["A"], [], rfl, nofun⟩, ?_⟩
  · intro name hname
    rcases List.mem_pair.mp (NameTable.suiteNamed_eq_some_iff.mp hname) with heq | heq
    · exact absurd (Prod.mk.inj heq).2 (by decide)
    · exact absurd (Prod.mk.inj heq).2 (by decide)
  · intro h
    exact absurd (hinverts.mp h "A" "B" _ rfl rfl) (by decide)

end Catalog

end CipherString
