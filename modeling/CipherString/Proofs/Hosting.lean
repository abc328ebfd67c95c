import CipherString.Host
import CipherString.Proofs.Exclusion
import CipherString.Proofs.Partition

namespace CipherString

namespace Catalog

theorem nodup_suites_builtinEntries : (builtinEntries.map Prod.snd).Nodup := by
  decide +kernel

/-- No name of the list is repeated, so the table is the list. -/
theorem entries_builtinNames : builtinNames.entries = builtinEntries :=
  NameTable.entries_ofList (by decide +kernel)

theorem names_builtinNames : builtinNames.names = builtinEntries.map Prod.fst :=
  congrArg (List.map Prod.fst) entries_builtinNames

theorem nameOf_builtinNames {name : String} {suite : Suite}
    (h : builtinNames.suiteNamed name = some suite) : builtinNames.nameOf suite = some name :=
  NameTable.nameOf_of_suiteNamed (entries_builtinNames ▸ nodup_suites_builtinEntries) h

theorem leavesKeywords_of_builtinNames {c : Catalog} (hnames : c.names = builtinNames) :
    c.LeavesKeywords := by
  have hwords : ∀ word ∈ ["ALL", "COMPLEMENTOFALL", "COMPLEMENTOFDEFAULT", "eNULL"],
      word ∉ builtinEntries.map Prod.fst := by
    decide +kernel
  intro word hword
  rw [suiteNamed_eq_none_iff, hnames, names_builtinNames]
  exact hwords word hword

end Catalog

namespace Host

/-- The names of entries, if all of them can be shown. -/
def Named (room : Nat) : List HostEntry → List String → Prop :=
  List.Forall₂ fun entry name => entry.name room = .ok name

/-- The suites that the built-in table has under names, each where it first appears. -/
def offers (names : List String) : List Suite :=
  Distinct.firsts (names.filterMap Catalog.builtinNames.suiteNamed)

section SuitesAfter

variable {room : Nat} {entry : HostEntry} {entries : List HostEntry} {name : String}
  {names : List String}

set_option maxRecDepth 2000 in
-- The comparison of the two sides looks into the built-in table.
theorem suitesAfter_cons (room : Nat) (source : String) (seen : List Suite) (entry : HostEntry)
    (entries : List HostEntry) :
    suitesAfter room source seen (entry :: entries) =
      Logged.ofExcept (entry.name room) >>= fun name =>
        match Catalog.builtinNames.suiteNamed name with
        | none => do
          Logged.report (.hostEntrySkipped name source)
          suitesAfter room source seen entries
        | some suite =>
          if suite ∈ seen then suitesAfter room source seen entries
          else
            suitesAfter room source (suite :: seen) entries >>= fun suites =>
              pure (suite :: suites) := rfl

/-- What an entry does whose name can be shown: it is reported, or it is passed over, or it brings a
suite. -/
theorem suitesAfter_cases (h : entry.name room = .ok name) (source : String) (seen : List Suite)
    (entries : List HostEntry) :
    (Catalog.builtinNames.suiteNamed name = none ∧
      suitesAfter room source seen (entry :: entries) =
        Logged.report (.hostEntrySkipped name source) >>= fun _ =>
          suitesAfter room source seen entries) ∨
    ∃ suite, Catalog.builtinNames.suiteNamed name = some suite ∧
      (suite ∈ seen ∧
        suitesAfter room source seen (entry :: entries) = suitesAfter room source seen entries ∨
      suite ∉ seen ∧
        suitesAfter room source seen (entry :: entries) =
          suitesAfter room source (suite :: seen) entries >>= fun suites =>
            pure (suite :: suites)) := by
  rw [suitesAfter_cons, h, Logged.ofExcept_ok, pure_bind]
  cases Catalog.builtinNames.suiteNamed name with
  | none => exact .inl ⟨rfl, rfl⟩
  | some suite =>
      refine .inr ⟨suite, rfl, ?_⟩
      by_cases hseen : suite ∈ seen
      · exact .inl ⟨hseen, if_pos hseen⟩
      · exact .inr ⟨hseen, if_neg hseen⟩

theorem outcome_suitesAfter (h : Named room entries names) (source : String) (seen : List Suite) :
    (suitesAfter room source seen entries).outcome =
      .ok ((offers names).filter (· ∉ seen)) := by
  induction h generalizing seen with
  | nil => rfl
  | @cons entry name entries names hname _ ih =>
      rcases suitesAfter_cases hname source seen entries with
        ⟨hsuite, heq⟩ | ⟨suite, hsuite, ⟨hseen, heq⟩ | ⟨hseen, heq⟩⟩
      · rw [heq, offers, List.filterMap_cons_none hsuite, Logged.outcome_bind, ih]
        rfl
      · rw [heq, offers, List.filterMap_cons_some hsuite, Distinct.firsts, ih,
          List.filter_cons_of_neg (by simpa using hseen), List.filter_filter]
        refine congrArg Except.ok (List.filter_congr fun s _ => ?_)
        by_cases hs : s = suite
        · simp [hs, hseen]
        · simp [hs]
      · rw [heq, offers, List.filterMap_cons_some hsuite, Distinct.firsts, Logged.outcome_bind, ih,
          List.filter_cons_of_pos (by simpa using hseen), List.filter_filter]
        refine congrArg (fun suites => Except.ok (suite :: suites))
          (List.filter_congr fun s _ => ?_)
        simp [Bool.and_comm]

theorem outcome_suitesOf (h : Named room entries names) (source : String) :
    (suitesOf room source entries).outcome = .ok (offers names) := by
  rw [suitesOf, outcome_suitesAfter h]
  simp

end SuitesAfter

/-- A catalog has what a host offers by the names of its entries: as suites those of these names,
and as defaults those of the names of its default entries that are among them. -/
structure Provides (entryNames defaultNames : List String) (c : Catalog) : Prop where
  suites : c.suites.toList = offers entryNames
  defaults : c.defaults.toList = (offers defaultNames).filter (· ∈ c.suites)
  names : c.names = Catalog.builtinNames

theorem exists_outcome_catalog {host : Host} {cipherString : String}
    {names defaultNames : List String} (h : host.rejection cipherString = none)
    (hnames : Named host.room (host.entries cipherString) names)
    (hdefaultNames : Named host.room host.defaults defaultNames) :
    ∃ c, (host.catalog cipherString).outcome = .ok c ∧ Provides names defaultNames c := by
  have hsuites : (offers names).Nodup := Distinct.nodup_firsts _
  have hdefaults : (offers defaultNames).Nodup := Distinct.nodup_firsts _
  have houtcome : (host.catalog cipherString).outcome =
      .ok (Catalog.ofLists (offers names) ((offers defaultNames).filter (· ∈ offers names))
        Catalog.builtinNames) := by
    rw [catalog, h]
    simp only [Logged.outcome_bind, outcome_suitesOf hnames, outcome_suitesOf hdefaultNames]
    rfl
  refine ⟨_, houtcome, Distinct.firsts_eq_self hsuites, ?_, rfl⟩
  rw [Catalog.ofLists, Distinct.toList_ofList, Distinct.firsts_eq_self (hdefaults.filter _)]
  refine List.filter_congr fun s _ => ?_
  simp [Distinct.mem_def, Distinct.firsts_eq_self hsuites]

section Provides

variable {names defaultNames : List String} {c : Catalog}

theorem Provides.mem_suites (h : Provides names defaultNames c) {s : Suite} :
    s ∈ c.suites ↔ ∃ name ∈ names, Catalog.builtinNames.suiteNamed name = some s := by
  rw [Distinct.mem_def, h.suites, offers, Distinct.mem_firsts, List.mem_filterMap]

theorem Provides.mem_suites_of_mem_defaults (h : Provides names defaultNames c) {s : Suite}
    (hs : s ∈ c.defaults) : s ∈ c.suites := by
  rw [Distinct.mem_def, h.defaults, List.mem_filter] at hs
  exact of_decide_eq_true hs.2

/-- All defaults are suites of the catalog, so none is lost where it is filtered by them. -/
theorem Provides.withinDefaults_perm (h : Provides names defaultNames c) :
    c.withinDefaults.Perm (c.defaults.toList.filter (!·.isNull)) := by
  have hnodup : c.withinDefaults.Nodup := c.suites.nodup.filter _
  rw [List.perm_ext_iff_of_nodup hnodup (c.defaults.nodup.filter _)]
  intro s
  rw [Catalog.mem_withinDefaults, List.mem_filter, ← Distinct.mem_def, Bool.not_eq_true']
  constructor
  · rintro ⟨-, hnull, hdefault⟩
    exact ⟨hdefault, hnull⟩
  · rintro ⟨hdefault, hnull⟩
    exact ⟨h.mem_suites_of_mem_defaults hdefault, hnull, hdefault⟩

theorem Provides.nameOf (h : Provides names defaultNames c) {name : String} {s : Suite}
    (hname : Catalog.builtinNames.suiteNamed name = some s) : c.nameOf s = some name := by
  rw [Catalog.nameOf, h.names]
  exact Catalog.nameOf_builtinNames hname

end Provides

end Host

namespace Interpreter

variable {interpreter : Interpreter} {expression : String} {names defaultNames : List String}
  {suites : List Suite} {s : Suite}

/-- The tokens of the default expansion are no names, so what stands for a suite from elsewhere is a
token of the expression. -/
theorem mem_scan_of_namesOutside (h : interpreter.catalog.LeavesKeywords)
    (hs : interpreter.NamesOutside (spellOutDefault (Token.scan expression)) s) :
    ∃ token ∈ Token.scan expression, Instruction.ofToken token = .modify .append token ∧
      interpreter.catalog.suiteNamed token = some s := by
  obtain ⟨-, token, htoken, hbody, hname⟩ := hs
  refine ⟨token, (mem_or_mem_of_mem_spellOutDefault htoken).resolve_left ?_, hbody, hname⟩
  intro hexpansion
  simp only [defaultExpansion, List.mem_cons, List.not_mem_nil, or_false] at hexpansion
  rcases hexpansion with rfl | rfl | rfl
  · rw [h "ALL" (by simp)] at hname
    cases hname
  · exact absurd hbody (by decide)
  · exact absurd hbody (by decide)

/-- A suite that is selected from the catalog of a host has a name, given by the host or by the
expression. -/
theorem exists_nameOf_of_provides (hhost : Host.Provides names defaultNames interpreter.catalog)
    (hevaluate : (interpreter.evaluate expression).outcome = .ok suites) (hs : s ∈ suites) :
    ∃ name, interpreter.catalog.nameOf s = some name ∧
      (name ∈ names ∨
        name ∈ Token.scan expression ∧ Instruction.ofToken name = .modify .append name) := by
  by_cases hcatalog : s ∈ interpreter.catalog.suites
  · obtain ⟨name, hmem, hname⟩ := hhost.mem_suites.mp hcatalog
    exact ⟨name, hhost.nameOf hname, Or.inl hmem⟩
  · obtain ⟨-, rfl⟩ := outcome_evaluate_eq_ok_iff.mp hevaluate
    obtain ⟨-, hkeeps⟩ := (interpreter.mem_suites_play_iff _ s).mp hs
    have hkeywords := Catalog.leavesKeywords_of_builtinNames hhost.names
    obtain ⟨token, htoken, hbody, hname⟩ :=
      mem_scan_of_namesOutside hkeywords (namesOutside_of_keeps hkeeps hcatalog)
    rw [Catalog.suiteNamed, hhost.names] at hname
    exact ⟨token, hhost.nameOf hname, Or.inr ⟨htoken, hbody⟩⟩

theorem exists_outcome_evaluateNames_of_provides
    (hhost : Host.Provides names defaultNames interpreter.catalog)
    (hevaluate : (interpreter.evaluate expression).outcome = .ok suites) :
    ∃ selected, (interpreter.evaluateNames expression).outcome = .ok selected ∧
      selected.length = suites.length ∧
      ∀ name ∈ selected, name ∈ names ∨
        name ∈ Token.scan expression ∧ Instruction.ofToken name = .modify .append name := by
  refine ⟨suites.filterMap interpreter.catalog.nameOf, ?_, ?_, ?_⟩
  · rw [outcome_evaluateNames, hevaluate]
    rfl
  · rw [List.filterMap_length_eq_length]
    intro s hs
    obtain ⟨name, hname, -⟩ := exists_nameOf_of_provides hhost hevaluate hs
    rw [hname]
    rfl
  · intro name hname
    obtain ⟨s, hs, hname⟩ := List.mem_filterMap.mp hname
    obtain ⟨other, hother, hsource⟩ := exists_nameOf_of_provides hhost hevaluate hs
    obtain rfl := Option.some.inj (hother.symm.trans hname)
    exact hsource

/-- A host that accepts a cipher string, and whose names can be shown, gives a catalog of the suites
that it names and the built-in table knows, each in its first place, with defaults found in the same
way among them. The default token selects of these what encrypts, and every selection from the
catalog has a name for each of its suites, which the host gave or which stands in the expression. -/
theorem host_catalog_names {host : Host} {cipherString : String}
    {names defaultNames : List String}
    (h : host.rejection cipherString = none)
    (hnames : Host.Named host.room (host.entries cipherString) names)
    (hdefaultNames : Host.Named host.room host.defaults defaultNames) :
    ∃ c, (host.catalog cipherString).outcome = .ok c ∧ Host.Provides names defaultNames c ∧
      (∀ s ∈ c.defaults, s ∈ c.suites) ∧
      ∀ policy,
        (∃ selected, (evaluate ⟨c, policy⟩ "DEFAULT").outcome = .ok selected ∧
          selected.Perm (c.defaults.toList.filter (!·.isNull))) ∧
        ∀ expression suites, (evaluate ⟨c, policy⟩ expression).outcome = .ok suites →
          ∃ selected, (evaluateNames ⟨c, policy⟩ expression).outcome = .ok selected ∧
            selected.length = suites.length ∧
            ∀ name ∈ selected, name ∈ names ∨
              name ∈ Token.scan expression ∧
                Instruction.ofToken name = .modify .append name := by
  obtain ⟨c, houtcome, hprovides⟩ := Host.exists_outcome_catalog h hnames hdefaultNames
  refine ⟨c, houtcome, hprovides, fun s hs => hprovides.mem_suites_of_mem_defaults hs, ?_⟩
  intro policy
  constructor
  · have hkeywords := Catalog.leavesKeywords_of_builtinNames hprovides.names
    exact ⟨c.withinDefaults, outcome_evaluate_DEFAULT hkeywords, hprovides.withinDefaults_perm⟩
  · intro expression suites hevaluate
    exact exists_outcome_evaluateNames_of_provides hprovides hevaluate

/-- A host that gives one name twice, with an entry without a name, one whose name is a number, and
one that the table does not know. Of its defaults one is no suite and one does not encrypt. -/
def raggedHost : Host where
  entries := fun _ =>
    [⟨some (.text "AES128-SHA")⟩, ⟨none⟩, ⟨some (.whole 7)⟩, ⟨some (.text "NULL-SHA")⟩,
      ⟨some (.text "TLS_UNKNOWN")⟩, ⟨some (.text "AES128-SHA")⟩]
  defaults :=
    [⟨some (.text "AES256-SHA")⟩, ⟨some (.text "NULL-SHA")⟩, ⟨some (.text "AES128-SHA")⟩]

def raggedNames : List String :=
  ["AES128-SHA", "", "7", "NULL-SHA", "TLS_UNKNOWN", "AES128-SHA"]

theorem named_raggedHost (cipherString : String) :
    Host.Named 0 (raggedHost.entries cipherString) raggedNames :=
  .cons rfl (.cons rfl (.cons rfl (.cons rfl (.cons rfl (.cons rfl .nil)))))

theorem host_catalog_names_of_raggedHost :
    raggedHost.rejection Host.everything = none ∧
      Host.Named raggedHost.room (raggedHost.entries Host.everything) raggedNames ∧
      Host.Named raggedHost.room raggedHost.defaults ["AES256-SHA", "NULL-SHA", "AES128-SHA"] ∧
      ∃ c names, (raggedHost.catalog Host.everything).outcome = .ok c ∧
        c.suites.toList = [⟨"rsa", "aes_128_cbc", "sha", "default_prf"⟩,
          ⟨"rsa", "null", "sha", "default_prf"⟩] ∧
        (evaluateNames ⟨c, {}⟩ "DEFAULT").outcome = .ok names ∧ names.length = 1 := by
  have hnames := named_raggedHost Host.everything
  have hdefaultNames : Host.Named raggedHost.room raggedHost.defaults
      ["AES256-SHA", "NULL-SHA", "AES128-SHA"] :=
    .cons rfl (.cons rfl (.cons rfl .nil))
  obtain ⟨c, houtcome, hprovides, -, hselect⟩ := host_catalog_names
    (show raggedHost.rejection Host.everything = none from rfl) hnames hdefaultNames
  obtain ⟨⟨selected, hselected, hperm⟩, hevaluateNames⟩ := hselect {}
  obtain ⟨names, hevaluate, hlength, -⟩ := hevaluateNames _ _ hselected
  obtain ⟨hentries, hdefaults⟩ :
      Host.offers raggedNames =
        [⟨"rsa", "aes_128_cbc", "sha", "default_prf"⟩, ⟨"rsa", "null", "sha", "default_prf"⟩] ∧
      Host.offers ["AES256-SHA", "NULL-SHA", "AES128-SHA"] =
        [⟨"rsa", "aes_256_cbc", "sha", "default_prf"⟩, ⟨"rsa", "null", "sha", "default_prf"⟩,
          ⟨"rsa", "aes_128_cbc", "sha", "default_prf"⟩] := by
    decide +kernel
  have hsuites := hprovides.suites.trans hentries
  have hdefaults : c.defaults.toList =
      [⟨"rsa", "null", "sha", "default_prf"⟩, ⟨"rsa", "aes_128_cbc", "sha", "default_prf"⟩] := by
    simp only [hprovides.defaults, hdefaults, Distinct.mem_def, hsuites]
    decide
  refine ⟨rfl, hnames, hdefaultNames, c, names, houtcome, hsuites, hevaluate, ?_⟩
  rw [hlength, hperm.length_eq, hdefaults]
  rfl

end Interpreter

end CipherString
