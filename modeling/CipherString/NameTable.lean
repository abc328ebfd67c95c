import CipherString.Suite

namespace CipherString

structure NameTable where
  entries : List (String × Suite)
  nodup : (entries.map Prod.fst).Nodup

namespace NameTable

def empty : NameTable :=
  ⟨[], List.nodup_nil⟩

instance : Inhabited NameTable := ⟨empty⟩

@[ext] theorem ext {t u : NameTable} (h : t.entries = u.entries) : t = u := by
  cases t; cases u; cases h; rfl

def names (t : NameTable) : List String :=
  t.entries.map Prod.fst

def suiteNamed (t : NameTable) (name : String) : Option Suite :=
  t.entries.lookup name

def nameOf (t : NameTable) (suite : Suite) : Option String :=
  (t.entries.reverse.find? fun entry => entry.2 = suite).map Prod.fst

/-- Entries with `suite` under `name`: in the place of the entry of that name, or at the end. -/
def put (name : String) (suite : Suite) : List (String × Suite) → List (String × Suite)
  | [] => [(name, suite)]
  | entry :: entries =>
    if entry.1 = name then (name, suite) :: entries else entry :: put name suite entries

theorem names_put (name : String) (suite : Suite) (entries : List (String × Suite)) :
    (put name suite entries).map Prod.fst =
      if name ∈ entries.map Prod.fst then entries.map Prod.fst
      else entries.map Prod.fst ++ [name] := by
  induction entries with
  | nil => simp [put]
  | cons entry entries ih =>
    by_cases h : entry.1 = name
    · simp [put, h]
    · have h' : name ≠ entry.1 := fun e => h e.symm
      by_cases hm : name ∈ entries.map Prod.fst
      · rw [if_pos hm] at ih
        simp only [put, h, if_false, List.map_cons, ih]
        rw [if_pos (List.mem_cons_of_mem _ hm)]
      · rw [if_neg hm] at ih
        have hc : name ∉ entry.1 :: entries.map Prod.fst := by
          simpa [h'] using hm
        simp only [put, h, if_false, List.map_cons, ih]
        rw [if_neg hc, List.cons_append]

/-- Gives a name a suite. A name that is already there keeps its place. -/
def insert (t : NameTable) (name : String) (suite : Suite) : NameTable :=
  ⟨put name suite t.entries, by
    rw [names_put]
    split
    · exact t.nodup
    · next h =>
      refine List.nodup_append.mpr ⟨t.nodup, by simp, fun a ha b hb hab => h ?_⟩
      rw [List.mem_singleton] at hb
      rwa [← hb, ← hab]⟩

/-- The table of a list of pairs: a repeated name keeps its first place and takes its last
suite. -/
def ofList (pairs : List (String × Suite)) : NameTable :=
  pairs.foldl (fun t pair => t.insert pair.1 pair.2) empty

def ofData (room : Nat) (pairs : List (String × Datum)) : Except Fault NameTable :=
  (pairs.mapM fun pair => (Suite.ofDatum room pair.2).map (pair.1, ·)).map ofList

end NameTable

end CipherString
