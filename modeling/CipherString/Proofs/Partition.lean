import CipherString.Proofs.RoundTrip

namespace CipherString

namespace Selection

variable {suites : List Suite}

theorem suites_append_empty (h : suites.Nodup) : (empty.append suites).suites = suites := by
  have hnew : suites.filter (fun s => s ∉ empty.chosen ∧ s ∉ empty.banned) = suites :=
    List.filter_eq_self.mpr (by simp)
  have hchosen : (empty.append suites).chosen = suites := by
    simp only [append, hnew, Distinct.firsts_eq_self h]
    exact List.nil_append suites
  rw [(coherent_empty.append suites).suites_eq, hchosen]

theorem suites_ban (state : Selection) (suites : List Suite) :
    (state.ban suites).suites = state.suites.filter (· ∉ suites) := by
  rw [Selection.suites, Selection.suites, ban, List.filter_filter, List.filter_filter]
  refine List.filter_congr fun s _ => ?_
  by_cases hbanned : s ∈ state.banned
  · simp [hbanned]
  · simp [hbanned]

end Selection

namespace Catalog

/-- Lists of suites of a catalog share it out: each is in the order of the catalog, no two have a
suite in common, and together they have each suite of the catalog once. -/
structure IsPartition (c : Catalog) (parts : List (List Suite)) : Prop where
  sublist : ∀ part ∈ parts, part.Sublist c.suites.toList
  disjoint : parts.Pairwise List.Disjoint
  perm : parts.flatten.Perm c.suites.toList

/-- None of the words that speak of the whole catalog is a name in it. -/
def LeavesKeywords (c : Catalog) : Prop :=
  ∀ word ∈ ["ALL", "COMPLEMENTOFALL", "COMPLEMENTOFDEFAULT", "eNULL"], c.suiteNamed word = none

variable {c : Catalog}

theorem IsPartition.of_cover {parts : List (List Suite)}
    (hsublist : ∀ part ∈ parts, part.Sublist c.suites.toList)
    (hdisjoint : parts.Pairwise List.Disjoint)
    (hcover : ∀ s ∈ c.suites, ∃ part ∈ parts, s ∈ part) : c.IsPartition parts := by
  refine ⟨hsublist, hdisjoint, ?_⟩
  have hnodup : parts.flatten.Nodup := by
    rw [List.nodup_flatten]
    exact ⟨fun part hpart => c.suites.nodup.sublist (hsublist part hpart), hdisjoint⟩
  rw [List.perm_ext_iff_of_nodup hnodup c.suites.nodup]
  intro s
  rw [List.mem_flatten]
  constructor
  · rintro ⟨part, hpart, hs⟩
    exact (hsublist part hpart).subset hs
  · exact hcover s

theorem meaning_of_criterion? {word : String} {criterion : Criterion}
    (hname : c.suiteNamed word = none) (hpieces : Token.pieces word = [word])
    (hcriterion : Keyword.criterion? word = some criterion) :
    c.meaning word = .ok (c.suites.toList.filter (criterion.holds c.defaults.toList)) := by
  have hcriteria : criteria [word] = .ok [criterion] := by
    rw [criteria, hcriterion]
    rfl
  rw [meaning, hname, hpieces, hcriteria]
  show Except.ok (c.matching [criterion]) = _
  simp only [matching, List.all_cons, List.all_nil, Bool.and_true]

/-- The suites that encrypt. -/
def encrypting (c : Catalog) : List Suite :=
  c.suites.toList.filter (!·.isNull)

/-- The suites that do not encrypt. -/
def nulls (c : Catalog) : List Suite :=
  c.suites.toList.filter (·.isNull)

/-- The suites that encrypt and are among the defaults. -/
def withinDefaults (c : Catalog) : List Suite :=
  c.suites.toList.filter fun s => !s.isNull && s ∈ c.defaults

/-- The suites that encrypt and are not among the defaults. -/
def beyondDefaults (c : Catalog) : List Suite :=
  c.suites.toList.filter fun s => !s.isNull && s ∉ c.defaults

section Parts

variable {s : Suite}

@[simp] theorem mem_encrypting : s ∈ c.encrypting ↔ s ∈ c.suites ∧ s.isNull = false := by
  simp [encrypting, Distinct.mem_def]

@[simp] theorem mem_nulls : s ∈ c.nulls ↔ s ∈ c.suites ∧ s.isNull := by
  simp [nulls, Distinct.mem_def]

@[simp] theorem mem_withinDefaults :
    s ∈ c.withinDefaults ↔ s ∈ c.suites ∧ s.isNull = false ∧ s ∈ c.defaults := by
  simp [withinDefaults, Distinct.mem_def]

@[simp] theorem mem_beyondDefaults :
    s ∈ c.beyondDefaults ↔ s ∈ c.suites ∧ s.isNull = false ∧ s ∉ c.defaults := by
  simp [beyondDefaults, Distinct.mem_def]

end Parts

theorem nodup_encrypting (c : Catalog) : c.encrypting.Nodup :=
  c.suites.nodup.filter _

theorem encrypting_eq_filter (c : Catalog) :
    c.encrypting =
      c.suites.toList.filter fun s => s ∈ c.withinDefaults ∨ s ∈ c.beyondDefaults := by
  refine List.filter_congr fun s hs => ?_
  have hs : s ∈ c.suites := hs
  by_cases hdefault : s ∈ c.defaults
  · simp [hs, hdefault]
  · simp [hs, hdefault]

theorem filter_encrypting (c : Catalog) :
    (c.encrypting.filter (· ∉ c.beyondDefaults)).filter (· ∉ c.nulls) = c.withinDefaults := by
  rw [encrypting, withinDefaults, List.filter_filter, List.filter_filter]
  refine List.filter_congr fun s hs => ?_
  have hs : s ∈ c.suites := hs
  cases hnull : s.isNull with
  | true => simp
  | false => simp [hs, hnull]

theorem isPartition_defaults (c : Catalog) :
    c.IsPartition [c.withinDefaults, c.beyondDefaults, c.nulls] := by
  refine .of_cover ?_ ?_ ?_
  · simp only [List.forall_mem_cons]
    exact ⟨List.filter_sublist, List.filter_sublist, List.filter_sublist, nofun⟩
  · simp only [List.pairwise_cons, List.forall_mem_cons, List.Disjoint, mem_withinDefaults,
      mem_beyondDefaults, mem_nulls]
    grind
  · intro s hs
    simp only [List.mem_cons, List.not_mem_nil, or_false, exists_eq_or_imp, exists_eq_left,
      mem_withinDefaults, mem_beyondDefaults, mem_nulls]
    grind

theorem meaning_of_cipher_null {word : String} (hname : c.suiteNamed word = none)
    (hpieces : Token.pieces word = [word])
    (hcriterion : Keyword.criterion? word = some (.cipher [Suite.nullCipher])) :
    c.meaning word = .ok c.nulls := by
  rw [meaning_of_criterion? hname hpieces hcriterion]
  exact congrArg Except.ok (List.filter_congr fun s _ => Criterion.holds_cipher_null _ s)

theorem LeavesKeywords.meaning_ALL (h : c.LeavesKeywords) : c.meaning "ALL" = .ok c.encrypting := by
  have hcriterion : Keyword.criterion? "ALL" = some .encrypting := by decide
  exact meaning_of_criterion? (h "ALL" (by simp)) (by decide) hcriterion

theorem LeavesKeywords.meaning_COMPLEMENTOFALL (h : c.LeavesKeywords) :
    c.meaning "COMPLEMENTOFALL" = .ok c.nulls :=
  meaning_of_cipher_null (h "COMPLEMENTOFALL" (by simp)) (by decide) (by decide)

theorem LeavesKeywords.meaning_eNULL (h : c.LeavesKeywords) : c.meaning "eNULL" = .ok c.nulls :=
  meaning_of_cipher_null (h "eNULL" (by simp)) (by decide) (by decide)

theorem LeavesKeywords.meaning_COMPLEMENTOFDEFAULT (h : c.LeavesKeywords) :
    c.meaning "COMPLEMENTOFDEFAULT" = .ok c.beyondDefaults := by
  have hcriterion : Keyword.criterion? "COMPLEMENTOFDEFAULT" = some .beyondDefaults := by decide
  rw [meaning_of_criterion? (h "COMPLEMENTOFDEFAULT" (by simp)) (by decide) hcriterion]
  refine congrArg Except.ok (List.filter_congr fun s _ => ?_)
  simp [Criterion.holds, Distinct.mem_def]

end Catalog

namespace Interpreter

variable {interpreter : Interpreter}

theorem outcome_evaluate_of_meaning {word : String} {suites : List Suite}
    (hplain : Token.isPlain word.toList)
    (hmeaning : interpreter.catalog.meaning word = .ok suites) (hnodup : suites.Nodup) :
    (interpreter.evaluate word).outcome = .ok suites := by
  rw [outcome_evaluate_of_isPlain hplain (Catalog.outcome_suitesOf_of_meaning hmeaning),
    Selection.suites_append_empty hnodup]

section Keywords

variable (h : interpreter.catalog.LeavesKeywords)

include h

theorem outcome_evaluate_ALL :
    (interpreter.evaluate "ALL").outcome = .ok interpreter.catalog.encrypting :=
  outcome_evaluate_of_meaning (by decide) h.meaning_ALL
    (interpreter.catalog.suites.nodup.filter _)

theorem outcome_evaluate_COMPLEMENTOFALL :
    (interpreter.evaluate "COMPLEMENTOFALL").outcome = .ok interpreter.catalog.nulls :=
  outcome_evaluate_of_meaning (by decide) h.meaning_COMPLEMENTOFALL
    (interpreter.catalog.suites.nodup.filter _)

theorem outcome_evaluate_COMPLEMENTOFDEFAULT :
    (interpreter.evaluate "COMPLEMENTOFDEFAULT").outcome = .ok interpreter.catalog.beyondDefaults :=
  outcome_evaluate_of_meaning (by decide) h.meaning_COMPLEMENTOFDEFAULT
    (interpreter.catalog.suites.nodup.filter _)

/-- The two bans leave of the suites that encrypt those that are among the defaults. -/
theorem outcome_evaluate_DEFAULT :
    (interpreter.evaluate "DEFAULT").outcome = .ok interpreter.catalog.withinDefaults := by
  have hreads : interpreter.Reads (spellOutDefault (Token.scan "DEFAULT"))
      [.modify .append interpreter.catalog.encrypting,
        .modify .ban interpreter.catalog.beyondDefaults, .modify .ban interpreter.catalog.nulls] :=
    .cons (outcome_read_of_meaning (by decide) h.meaning_ALL)
      (.cons (outcome_read_of_meaning (by decide) h.meaning_COMPLEMENTOFDEFAULT)
        (.cons (outcome_read_of_meaning (by decide) h.meaning_eNULL) .nil))
  rw [outcome_evaluate_of_reads hreads]
  simp only [List.foldl_cons, List.foldl_nil, Selection.act_append, Selection.act_ban,
    Selection.suites_ban]
  rw [Selection.suites_append_empty interpreter.catalog.nodup_encrypting,
    Catalog.filter_encrypting]

theorem exists_outcome_evaluate_ALL_COMPLEMENTOFALL :
    ∃ whole, (interpreter.evaluate "ALL:COMPLEMENTOFALL").outcome = .ok whole ∧
      whole.Perm interpreter.catalog.suites.toList := by
  have hreads : interpreter.Reads (spellOutDefault (Token.scan "ALL:COMPLEMENTOFALL"))
      [.modify .append interpreter.catalog.encrypting,
        .modify .append interpreter.catalog.nulls] :=
    .cons (outcome_read_of_meaning (by decide) h.meaning_ALL)
      (.cons (outcome_read_of_meaning (by decide) h.meaning_COMPLEMENTOFALL) .nil)
  have houtcome := outcome_evaluate_of_reads hreads
  refine ⟨_, houtcome, ?_⟩
  rw [List.perm_ext_iff_of_nodup (nodup_of_outcome_evaluate houtcome)
    interpreter.catalog.suites.nodup]
  intro s
  rw [← Distinct.mem_def, Selection.mem_suites]
  simp only [List.foldl_cons, List.foldl_nil, Selection.act_append, Selection.mem_chosen_append,
    Selection.banned_append, Selection.banned_empty, Selection.chosen_empty, Catalog.mem_encrypting,
    Catalog.mem_nulls, Distinct.not_mem_empty, List.not_mem_nil]
  grind

end Keywords

/-- The keywords of a whole catalog select its three parts, whatever its defaults are and in
whatever order they stand: the default token those of its suites that are defaults and encrypt, one
complement the others that encrypt, and the other complement those that do not. The first two in
one are all that encrypt, and with the last they are the catalog. -/
theorem keywords_partition (h : interpreter.catalog.LeavesKeywords) :
    ∃ within beyond nulls encrypting whole : List Suite,
      (interpreter.evaluate "DEFAULT").outcome = .ok within ∧
      (interpreter.evaluate "COMPLEMENTOFDEFAULT").outcome = .ok beyond ∧
      (interpreter.evaluate "COMPLEMENTOFALL").outcome = .ok nulls ∧
      (interpreter.evaluate "ALL").outcome = .ok encrypting ∧
      (interpreter.evaluate "ALL:COMPLEMENTOFALL").outcome = .ok whole ∧
      interpreter.catalog.IsPartition [within, beyond, nulls] ∧
      within = interpreter.catalog.suites.toList.filter
        (fun s => !s.isNull && s ∈ interpreter.catalog.defaults) ∧
      encrypting = interpreter.catalog.suites.toList.filter
        (fun s => s ∈ within ∨ s ∈ beyond) ∧
      whole.Perm interpreter.catalog.suites.toList := by
  obtain ⟨whole, hwhole, hperm⟩ := exists_outcome_evaluate_ALL_COMPLEMENTOFALL h
  exact ⟨_, _, _, _, whole, outcome_evaluate_DEFAULT h, outcome_evaluate_COMPLEMENTOFDEFAULT h,
    outcome_evaluate_COMPLEMENTOFALL h, outcome_evaluate_ALL h, hwhole,
    interpreter.catalog.isPartition_defaults, rfl,
    interpreter.catalog.encrypting_eq_filter, hperm⟩

/-- A catalog whose defaults are one of its suites that encrypts, one that does not, and one from
elsewhere. -/
def strayDefaults : Interpreter where
  catalog := .ofLists
    [⟨"rsa", "null", "sha", "default_prf"⟩, ⟨"dhe_rsa", "aes_256_gcm", "aead", "sha384"⟩,
      ⟨"rsa", "aes_128_cbc", "sha", "default_prf"⟩]
    [⟨"psk", "rc4_128", "sha", "default_prf"⟩, ⟨"rsa", "aes_128_cbc", "sha", "default_prf"⟩,
      ⟨"rsa", "null", "sha", "default_prf"⟩] .empty

theorem keywords_partition_of_strayDefaults :
    strayDefaults.catalog.LeavesKeywords ∧
      ∃ beyond nulls,
        (strayDefaults.evaluate "DEFAULT").outcome =
          .ok [⟨"rsa", "aes_128_cbc", "sha", "default_prf"⟩] ∧
        (strayDefaults.evaluate "COMPLEMENTOFDEFAULT").outcome = .ok beyond ∧
        (strayDefaults.evaluate "COMPLEMENTOFALL").outcome = .ok nulls ∧
        strayDefaults.catalog.IsPartition
          [[⟨"rsa", "aes_128_cbc", "sha", "default_prf"⟩], beyond, nulls] := by
  have hkeywords : strayDefaults.catalog.LeavesKeywords := fun _ _ => rfl
  obtain ⟨within, beyond, nulls, _, _, hwithin, hbeyond, hnulls, -, -, hpartition, hfilter, -⟩ :=
    keywords_partition hkeywords
  have hone : within = [⟨"rsa", "aes_128_cbc", "sha", "default_prf"⟩] := by
    rw [hfilter]
    decide
  subst hone
  exact ⟨hkeywords, beyond, nulls, hwithin, hbeyond, hnulls, hpartition⟩

end Interpreter

end CipherString
