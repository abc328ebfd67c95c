import CipherString.Proofs.Partition
import CipherString.Proofs.Ranking

/-!
How keywords stand to each other. Some stand for what others stand for together, some only for what
another stands for, and some have no suite in common, whatever the attributes of the suites are. A
criterion speaks of each attribute by finitely many values, so this is a matter of comparing values.
-/

namespace CipherString

inductive Attribute where
  | keyExchange
  | cipher
  | mac
  | prf
  deriving DecidableEq

namespace Attribute

def all : List Attribute :=
  [keyExchange, cipher, mac, prf]

theorem mem_all (which : Attribute) : which ∈ all := by
  cases which <;> decide

def of (s : Suite) : Attribute → String
  | keyExchange => s.keyExchange
  | cipher => s.cipher
  | mac => s.mac
  | prf => s.prf

end Attribute

namespace Criterion

/-- The values of an attribute that meet a criterion whatever the other attributes are. -/
def sufficient : Criterion → Attribute → List String
  | .keyExchange among, .keyExchange => among
  | .cipher among, .cipher => among
  | .mac among, .mac => among
  | .any keyExchanges _ _ _, .keyExchange => keyExchanges
  | .any _ ciphers _ _, .cipher => ciphers
  | .any _ _ macs _, .mac => macs
  | .any _ _ _ prfs, .prf => prfs
  | _, _ => []

/-- The values of an attribute without one of which a criterion is not met, if there are such. -/
def required? : Criterion → Attribute → Option (List String)
  | .keyExchange among, .keyExchange => some among
  | .cipher among, .cipher => some among
  | .mac among, .mac => some among
  | .every keyExchanges _ _ _, .keyExchange => some keyExchanges
  | .every _ ciphers _ _, .cipher => some ciphers
  | .every _ _ macs _, .mac => some macs
  | .every _ _ _ prfs, .prf => some prfs
  | _, _ => none

/-- Whether a criterion is met through a sufficient value only. -/
def isDisjunction : Criterion → Bool
  | .keyExchange _ | .cipher _ | .mac _ | .any .. => true
  | _ => false

variable {criterion : Criterion} {which : Attribute} {defaults : List Suite} {s : Suite}

theorem holds_of_mem_sufficient (h : which.of s ∈ criterion.sufficient which) :
    criterion.holds defaults s := by
  cases criterion <;> cases which <;> simp_all [sufficient, holds, Attribute.of]

theorem exists_mem_sufficient (hdisjunction : criterion.isDisjunction)
    (h : criterion.holds defaults s) :
    ∃ which, Attribute.of s which ∈ criterion.sufficient which := by
  cases criterion with
  | keyExchange among => exact ⟨.keyExchange, List.contains_iff_mem.mp h⟩
  | cipher among => exact ⟨.cipher, List.contains_iff_mem.mp h⟩
  | mac among => exact ⟨.mac, List.contains_iff_mem.mp h⟩
  | any keyExchanges ciphers macs prfs =>
      simp only [holds, Bool.or_eq_true, List.contains_iff_mem] at h
      rcases h with ((hkeyExchange | hcipher) | hmac) | hprf
      · exact ⟨.keyExchange, hkeyExchange⟩
      · exact ⟨.cipher, hcipher⟩
      · exact ⟨.mac, hmac⟩
      · exact ⟨.prf, hprf⟩
  | _ => cases hdisjunction

theorem mem_of_required? {among : List String} (hrequired : criterion.required? which = some among)
    (h : criterion.holds defaults s) : which.of s ∈ among := by
  cases criterion <;> cases which <;> simp_all [required?, holds, Attribute.of]

end Criterion

namespace Keyword

/-- Whether a suite meets the criterion that a word stands for. -/
def fits (defaults : List Suite) (word : String) (s : Suite) : Bool :=
  (criterion? word).any (·.holds defaults s)

/-- Keywords that stand for what others stand for together. -/
def unions : List (String × List String) :=
  [("COMPLEMENTOFALL", ["eNULL"]), ("kDH", ["kDHr", "kDHd"]), ("kDH", ["aDH"]),
    ("kDHE", ["DHE", "ADH"]), ("DH", ["kDH", "kDHE"]), ("kEECDH", ["ECDHE", "AECDH"]),
    ("kECDH", ["kECDHr", "kECDHe"]), ("kECDH", ["aECDH"]), ("ECDH", ["kECDH", "kEECDH"]),
    ("aNULL", ["ADH", "AECDH"]), ("aPSK", ["kPSK", "kDHEPSK", "kRSAPSK"]),
    ("AES", ["AES128", "AES256"]), ("HIGH", ["AES", "CHACHA20"]),
    ("MEDIUM", ["RC4", "IDEA", "3DES"])]

/-- Pairs of keywords of which the first stands only for what the second stands for. -/
def inclusions : List (String × String) :=
  [("AESGCM", "AES"), ("AESGCM", "TLSv1.2"), ("DES", "LOW")]

/-- Lists of keywords of which no two have a suite in common. -/
def families : List (List String) :=
  [["HIGH", "MEDIUM", "LOW", "eNULL"], ["TLSv1.2", "SSLv3"], ["MD5", "SHA1", "SHA256", "SHA384"]]

/-- The words that stand in one of the tables, and `ALL`. -/
def related : List String :=
  "ALL" :: unions.flatMap (fun union => union.1 :: union.2) ++
    inclusions.flatMap (fun inclusion => [inclusion.1, inclusion.2]) ++ families.flatten

/-- Each value that suffices for the word suffices for one of the others. -/
def IsCovered (word : String) (others : List String) : Prop :=
  ∃ criterion ∈ criterion? word, criterion.isDisjunction ∧
    ∀ which ∈ Attribute.all, ∀ value ∈ criterion.sufficient which,
      ∃ other ∈ others, ∃ covering ∈ criterion? other, value ∈ covering.sufficient which

/-- No value that suffices for the word is among those that the other needs. -/
def IsApart (word other : String) : Prop :=
  ∃ criterion ∈ criterion? word, ∃ needing ∈ criterion? other, criterion.isDisjunction ∧
    ∀ which ∈ Attribute.all, ∀ value ∈ criterion.sufficient which,
      ∃ among ∈ needing.required? which, value ∉ among

instance (word : String) (others : List String) : Decidable (IsCovered word others) :=
  inferInstanceAs (Decidable (∃ _, _))

instance (word other : String) : Decidable (IsApart word other) :=
  inferInstanceAs (Decidable (∃ _, _))

section Laws

variable {word other : String} {others : List String} {defaults : List Suite} {s : Suite}

theorem fits_iff :
    fits defaults word s ↔ ∃ criterion ∈ criterion? word, criterion.holds defaults s := by
  rw [fits]
  cases criterion? word <;> simp

theorem IsCovered.exists_fits (h : IsCovered word others) (hfits : fits defaults word s) :
    ∃ other ∈ others, fits defaults other s := by
  obtain ⟨criterion, hcriterion, hdisjunction, hcovered⟩ := h
  obtain ⟨met, hmet, hholds⟩ := fits_iff.mp hfits
  obtain rfl := Option.mem_unique hmet hcriterion
  obtain ⟨which, hvalue⟩ := Criterion.exists_mem_sufficient hdisjunction hholds
  obtain ⟨other, hother, covering, hcovering, hsufficient⟩ :=
    hcovered which which.mem_all _ hvalue
  exact ⟨other, hother, fits_iff.mpr
    ⟨covering, hcovering, Criterion.holds_of_mem_sufficient hsufficient⟩⟩

theorem IsApart.not_fits (h : IsApart word other) (hfits : fits defaults word s) :
    fits defaults other s = false := by
  obtain ⟨criterion, hcriterion, needing, hneeding, hdisjunction, hapart⟩ := h
  obtain ⟨met, hmet, hholds⟩ := fits_iff.mp hfits
  obtain rfl := Option.mem_unique hmet hcriterion
  obtain ⟨which, hvalue⟩ := Criterion.exists_mem_sufficient hdisjunction hholds
  obtain ⟨among, hrequired, hmem⟩ := hapart which which.mem_all _ hvalue
  rw [Bool.eq_false_iff]
  intro hother
  obtain ⟨needed, hneeded, hholds⟩ := fits_iff.mp hother
  obtain rfl := Option.mem_unique hneeded hneeding
  exact hmem (Criterion.mem_of_required? hrequired hholds)

end Laws

theorem isCovered_of_mem_unions : ∀ union ∈ unions,
    IsCovered union.1 union.2 ∧ ∀ part ∈ union.2, IsCovered part [union.1] := by
  decide +kernel

theorem isCovered_of_mem_inclusions : ∀ inclusion ∈ inclusions,
    IsCovered inclusion.1 [inclusion.2] := by
  decide

theorem pairwise_isApart_of_mem_families : ∀ family ∈ families, family.Pairwise IsApart := by
  decide

theorem pieces_and_criterion?_of_mem_related : ∀ word ∈ related,
    Token.pieces word = [word] ∧ (criterion? word).isSome := by
  decide +kernel

/-- A suite with the null cipher is all that `ALL` leaves out. -/
theorem fits_all (defaults : List Suite) (s : Suite) :
    fits defaults "ALL" s = !fits defaults "eNULL" s := by
  have hall : criterion? "ALL" = some .encrypting := by decide
  have hnull : criterion? "eNULL" = some (.cipher [Suite.nullCipher]) := by decide
  rw [fits, fits, hall, hnull, Option.any_some, Option.any_some, Criterion.holds_cipher_null]
  rfl

theorem fits_eq_any_of_mem_unions {union : String × List String} (h : union ∈ unions)
    (defaults : List Suite) (s : Suite) :
    fits defaults union.1 s = union.2.any (fits defaults · s) := by
  obtain ⟨hcovered, hparts⟩ := isCovered_of_mem_unions union h
  rw [Bool.eq_iff_iff, List.any_eq_true]
  constructor
  · exact hcovered.exists_fits
  · rintro ⟨part, hpart, hfits⟩
    obtain ⟨whole, hwhole, hfits⟩ := (hparts part hpart).exists_fits hfits
    rwa [List.mem_singleton.mp hwhole] at hfits

theorem fits_of_mem_inclusions {inclusion : String × String} (h : inclusion ∈ inclusions)
    {defaults : List Suite} {s : Suite} (hfits : fits defaults inclusion.1 s) :
    fits defaults inclusion.2 s := by
  obtain ⟨other, hother, hfits⟩ := (isCovered_of_mem_inclusions inclusion h).exists_fits hfits
  rwa [List.mem_singleton.mp hother] at hfits

theorem pairwise_not_fits_of_mem_families {family : List String} (h : family ∈ families)
    (defaults : List Suite) (s : Suite) :
    family.Pairwise fun word other => ¬(fits defaults word s ∧ fits defaults other s) := by
  refine (pairwise_isApart_of_mem_families family h).imp ?_
  rintro word other hapart ⟨hword, hother⟩
  rw [hapart.not_fits hword] at hother
  exact Bool.false_ne_true hother

end Keyword

theorem Suite.mem_graded_of_strength_pos {s : Suite} (h : 0 < s.strength) :
    s.cipher ∈ Keyword.high ∨ s.cipher ∈ Keyword.medium ∨ s.cipher ∈ Keyword.low := by
  have hgraded : ∀ entry ∈ keyBits, 0 < entry.2 →
      entry.1 ∈ Keyword.high ∨ entry.1 ∈ Keyword.medium ∨ entry.1 ∈ Keyword.low := by
    decide
  rw [strength] at h
  cases hbits : keyBits.lookup s.cipher with
  | none =>
      rw [hbits] at h
      exact absurd h (Nat.lt_irrefl 0)
  | some bits =>
      rw [hbits] at h
      exact hgraded _ (mem_of_lookup_eq_some hbits) h

theorem Suite.strength_pos_iff {s : Suite} : 0 < s.strength ↔
    s.cipher ∈ Keyword.high ∨ s.cipher ∈ Keyword.medium ∨ s.cipher ∈ Keyword.low := by
  constructor
  · exact mem_graded_of_strength_pos
  · rintro (hhigh | hmedium | hlow)
    · exact Nat.lt_of_lt_of_le (by decide) (le_strength_of_mem_high_or_medium (Or.inl hhigh))
    · exact Nat.lt_of_lt_of_le (by decide) (le_strength_of_mem_high_or_medium (Or.inr hmedium))
    · exact (strength_of_mem_low hlow).1

theorem Keyword.strength_pos_iff_fits (defaults : List Suite) (s : Suite) : 0 < s.strength ↔
    fits defaults "HIGH" s ∨ fits defaults "MEDIUM" s ∨ fits defaults "LOW" s := by
  have hhigh : criterion? "HIGH" = some (.cipher high) := by decide
  have hmedium : criterion? "MEDIUM" = some (.cipher medium) := by decide
  have hlow : criterion? "LOW" = some (.cipher low) := by decide
  rw [Suite.strength_pos_iff, fits, fits, fits, hhigh, hmedium, hlow]
  simp only [Option.any_some, Criterion.holds, List.contains_iff_mem]

namespace Catalog

/-- The suites of a catalog that meet the criterion of a word, in the order of the catalog. -/
def fitting (c : Catalog) (word : String) : List Suite :=
  c.suites.toList.filter (Keyword.fits c.defaults.toList word)

theorem mem_fitting {c : Catalog} {word : String} {s : Suite} :
    s ∈ c.fitting word ↔ s ∈ c.suites ∧ Keyword.fits c.defaults.toList word s :=
  List.mem_filter

theorem suitesOf_of_mem_related {c : Catalog} {word : String} (hword : word ∈ Keyword.related)
    (hname : word ∉ c.names.names) (unknown : UnknownToken) :
    c.suitesOf unknown word = pure (c.fitting word) := by
  obtain ⟨hpieces, hknown⟩ := Keyword.pieces_and_criterion?_of_mem_related word hword
  obtain ⟨criterion, hcriterion⟩ := Option.isSome_iff_exists.mp hknown
  have hfits : Keyword.fits c.defaults.toList word = criterion.holds c.defaults.toList := by
    funext s
    rw [Keyword.fits, hcriterion, Option.any_some]
  rw [suitesOf, meaning_of_criterion? (suiteNamed_eq_none_iff.mpr hname) hpieces hcriterion,
    fitting, hfits]

section Fitting

variable {c : Catalog}

theorem fitting_all : c.fitting "ALL" = c.suites.toList.filter (· ∉ c.fitting "eNULL") := by
  refine List.filter_congr fun s hs => ?_
  have hs : s ∈ c.suites := hs
  simp [Keyword.fits_all, mem_fitting, hs]

theorem fitting_of_mem_unions {union : String × List String} (h : union ∈ Keyword.unions) :
    c.fitting union.1 =
      c.suites.toList.filter fun s => ∃ part ∈ union.2, s ∈ c.fitting part := by
  refine List.filter_congr fun s hs => ?_
  have hs : s ∈ c.suites := hs
  rw [Keyword.fits_eq_any_of_mem_unions h, Bool.eq_iff_iff, List.any_eq_true, decide_eq_true_iff]
  simp only [mem_fitting, hs, true_and]

theorem sublist_fitting_of_mem_inclusions {inclusion : String × String}
    (h : inclusion ∈ Keyword.inclusions) :
    (c.fitting inclusion.1).Sublist (c.fitting inclusion.2) :=
  List.monotone_filter_right _ fun _ hfits => Keyword.fits_of_mem_inclusions h hfits

theorem pairwise_disjoint_fitting_of_mem_families {family : List String}
    (h : family ∈ Keyword.families) : (family.map c.fitting).Pairwise List.Disjoint := by
  rw [List.pairwise_map]
  refine (Keyword.pairwise_isApart_of_mem_families family h).imp ?_
  intro word other hapart s hword hother
  have hnot := hapart.not_fits (mem_fitting.mp hword).2
  rw [(mem_fitting.mp hother).2] at hnot
  cases hnot

end Fitting

/-- The keywords stand to each other as their tables say, whatever the attributes of a suite are,
and the suites that grade as strong, medium or weak are those of positive strength. So in a catalog
where none of the keywords is a name, what each denotes is got from what the others denote. -/
theorem keywords_form_lattice (c : Catalog) (unknown : UnknownToken) :
    (∀ word ∈ Keyword.related, (Keyword.criterion? word).isSome) ∧
    (∀ s : Suite,
      let fits := fun word => Keyword.fits c.defaults.toList word s
      (fits "ALL" = !fits "eNULL") ∧
      (∀ union ∈ Keyword.unions, fits union.1 = union.2.any fits) ∧
      (∀ inclusion ∈ Keyword.inclusions, fits inclusion.1 → fits inclusion.2) ∧
      (∀ family ∈ Keyword.families, family.Pairwise fun word other => ¬(fits word ∧ fits other)) ∧
      (0 < s.strength ↔ fits "HIGH" ∨ fits "MEDIUM" ∨ fits "LOW")) ∧
    ((∀ word ∈ Keyword.related, word ∉ c.names.names) →
      ∃ listed : String → List Suite,
        (∀ word ∈ Keyword.related, c.suitesOf unknown word = pure (listed word)) ∧
        (listed "ALL" = c.suites.toList.filter (· ∉ listed "eNULL")) ∧
        (∀ union ∈ Keyword.unions,
          listed union.1 = c.suites.toList.filter fun s => ∃ part ∈ union.2, s ∈ listed part) ∧
        (∀ inclusion ∈ Keyword.inclusions, (listed inclusion.1).Sublist (listed inclusion.2)) ∧
        ∀ family ∈ Keyword.families, (family.map listed).Pairwise List.Disjoint) := by
  refine ⟨fun word hword => (Keyword.pieces_and_criterion?_of_mem_related word hword).2, ?_, ?_⟩
  · intro s
    exact ⟨Keyword.fits_all _ s, fun union h => Keyword.fits_eq_any_of_mem_unions h _ s,
      fun inclusion h => Keyword.fits_of_mem_inclusions h,
      fun family h => Keyword.pairwise_not_fits_of_mem_families h _ s,
      Keyword.strength_pos_iff_fits _ s⟩
  · intro hnames
    exact ⟨c.fitting, fun word hword => suitesOf_of_mem_related hword (hnames word hword) unknown,
      fitting_all, fun union => fitting_of_mem_unions,
      fun inclusion => sublist_fitting_of_mem_inclusions,
      fun family => pairwise_disjoint_fitting_of_mem_families⟩

theorem keywords_form_lattice_of_graded :
    let c := Interpreter.graded.catalog
    ∃ listed : String → List Suite,
      (∀ word ∈ Keyword.related, c.suitesOf .strict word = pure (listed word)) ∧
      listed "ALL" = c.suites.toList.filter (· ∉ listed "eNULL") ∧
      listed "HIGH" =
        c.suites.toList.filter (fun s => ∃ part ∈ ["AES", "CHACHA20"], s ∈ listed part) ∧
      (listed "DES").Sublist (listed "LOW") ∧
      (["TLSv1.2", "SSLv3"].map listed).Pairwise List.Disjoint := by
  obtain ⟨listed, hlisted, hall, hunions, hinclusions, hfamilies⟩ :=
    (keywords_form_lattice Interpreter.graded.catalog .strict).2.2
      (fun _ _ => List.not_mem_nil)
  exact ⟨listed, hlisted, hall, hunions ("HIGH", _) (by decide), hinclusions ("DES", _) (by decide),
    hfamilies _ (by decide)⟩

end Catalog

end CipherString
