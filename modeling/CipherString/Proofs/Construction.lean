import CipherString.Catalog
import Mathlib.Data.List.Basic
import Mathlib.Data.List.Perm.Basic

namespace CipherString

namespace Distinct

variable {α : Type} [DecidableEq α] {l m : List α}

/-- A list has the elements of another, each once, in the order in which they first appear there. -/
structure IsFirsts (l found : List α) : Prop where
  nodup : found.Nodup
  mem_iff : ∀ a, a ∈ found ↔ a ∈ l
  pairwise : found.Pairwise fun a b => l.idxOf a < l.idxOf b

/-- Two lists have the same elements, and these first appear in the same order. -/
structure SameFirsts (l m : List α) : Prop where
  mem_iff : ∀ a, a ∈ l ↔ a ∈ m
  idxOf_lt_iff : ∀ a ∈ l, ∀ b ∈ l, l.idxOf a < l.idxOf b ↔ m.idxOf a < m.idxOf b

theorem pairwise_idxOf_firsts (l : List α) :
    (firsts l).Pairwise fun a b => l.idxOf a < l.idxOf b := by
  induction l with
  | nil => exact List.Pairwise.nil
  | cons a l ih =>
      refine List.pairwise_cons.mpr ⟨?_, ?_⟩
      · intro b hb
        have hne : a ≠ b := fun h => by simp [h] at hb
        rw [List.idxOf_cons_self, List.idxOf_cons_ne l hne]
        exact Nat.succ_pos _
      · refine (ih.filter _).imp_of_mem fun {b c} hb hc hlt => ?_
        have hneb : a ≠ b := fun h => by simp [h] at hb
        have hnec : a ≠ c := fun h => by simp [h] at hc
        rw [List.idxOf_cons_ne l hneb, List.idxOf_cons_ne l hnec]
        exact Nat.succ_lt_succ hlt

theorem isFirsts_firsts (l : List α) : IsFirsts l (firsts l) where
  nodup := nodup_firsts l
  mem_iff := fun _ => mem_firsts
  pairwise := pairwise_idxOf_firsts l

/-- The elements and their first places leave no choice. -/
theorem IsFirsts.eq_firsts {found : List α} (h : IsFirsts l found) : found = firsts l := by
  have hperm : found.Perm (firsts l) := by
    rw [List.perm_ext_iff_of_nodup h.nodup (nodup_firsts l)]
    intro a
    rw [h.mem_iff, mem_firsts]
  refine hperm.eq_of_pairwise ?_ h.pairwise (pairwise_idxOf_firsts l)
  intro a b _ _ hab hba
  exact absurd hab (Nat.lt_asymm hba)

theorem idxOf_lt_of_idxOf_firsts_lt {a b : α} (ha : a ∈ l) (hb : b ∈ l)
    (h : (firsts l).idxOf a < (firsts l).idxOf b) : l.idxOf a < l.idxOf b := by
  have ha' := List.idxOf_lt_length_of_mem (mem_firsts.mpr ha)
  have hb' := List.idxOf_lt_length_of_mem (mem_firsts.mpr hb)
  have hab := List.pairwise_iff_getElem.mp (pairwise_idxOf_firsts l) _ _ ha' hb' h
  rwa [List.getElem_idxOf, List.getElem_idxOf] at hab

theorem idxOf_firsts_lt_iff {a b : α} (ha : a ∈ l) (hb : b ∈ l) :
    (firsts l).idxOf a < (firsts l).idxOf b ↔ l.idxOf a < l.idxOf b := by
  refine ⟨idxOf_lt_of_idxOf_firsts_lt ha hb, fun h => ?_⟩
  rcases Nat.lt_trichotomy ((firsts l).idxOf a) ((firsts l).idxOf b) with hlt | heq | hgt
  · exact hlt
  · have hab : a = b := (List.idxOf_inj (mem_firsts.mpr ha)).mp heq
    exact absurd h (by simp [hab])
  · exact absurd h (Nat.lt_asymm (idxOf_lt_of_idxOf_firsts_lt hb ha hgt))

theorem firsts_eq_firsts_iff : firsts l = firsts m ↔ SameFirsts l m := by
  constructor
  · intro h
    have hmem : ∀ a, a ∈ l ↔ a ∈ m := fun a => by rw [← mem_firsts, h, mem_firsts]
    refine ⟨hmem, fun a ha b hb => ?_⟩
    rw [← idxOf_firsts_lt_iff ha hb, h, idxOf_firsts_lt_iff ((hmem a).mp ha) ((hmem b).mp hb)]
  · intro h
    symm
    apply IsFirsts.eq_firsts
    refine ⟨nodup_firsts m, fun a => mem_firsts.trans (h.mem_iff a).symm, ?_⟩
    refine (pairwise_idxOf_firsts m).imp_of_mem fun {a b} ha hb hlt => ?_
    rw [mem_firsts, ← h.mem_iff] at ha hb
    exact (h.idxOf_lt_iff a ha b hb).mpr hlt

end Distinct

/-- A suite as it is given: by its attributes, of which the last may be left out. -/
structure Attributes where
  keyExchange : String
  cipher : String
  mac : String
  prf? : Option String := none

namespace Attributes

def items (a : Attributes) : List String :=
  [a.keyExchange, a.cipher, a.mac] ++ a.prf?.toList

def datum (a : Attributes) : Datum :=
  .list (a.items.map .text)

/-- The suite that the attributes denote: without the last one it has the function of the
protocol. -/
def suite (a : Attributes) : Suite :=
  ⟨a.keyExchange, a.cipher, a.mac, a.prf?.getD Suite.defaultPrf⟩

/-- Any three or four texts are the attributes of a suite. -/
theorem exists_items_eq_iff (l : List String) :
    (∃ a : Attributes, a.items = l) ↔ l.length = 3 ∨ l.length = 4 := by
  constructor
  · rintro ⟨⟨keyExchange, cipher, mac, prf?⟩, rfl⟩
    cases prf? with
    | none => exact Or.inl rfl
    | some prf => exact Or.inr rfl
  · rintro (h | h)
    · obtain ⟨keyExchange, cipher, mac, rfl⟩ := List.length_eq_three.mp h
      exact ⟨⟨keyExchange, cipher, mac, none⟩, rfl⟩
    · match l, h with
      | [keyExchange, cipher, mac, prf], _ => exact ⟨⟨keyExchange, cipher, mac, some prf⟩, rfl⟩

theorem ofDatum_datum (room : Nat) (a : Attributes) :
    Suite.ofDatum room a.datum = .ok a.suite := by
  obtain ⟨keyExchange, cipher, mac, prf?⟩ := a
  cases prf? with
  | none => rfl
  | some prf => rfl

end Attributes

/-- A suite as it is given, with all its attributes. -/
def Suite.datum (s : Suite) : Datum :=
  .list (s.attributes.map .text)

theorem Suite.ofDatum_datum (room : Nat) (s : Suite) : Suite.ofDatum room s.datum = .ok s := rfl

namespace Catalog

theorem ofData_map {α β : Type} {f : α → Datum} {g : β → Datum} {p : α → Suite} {q : β → Suite}
    {room : Nat} (hf : ∀ a, Suite.ofDatum room (f a) = .ok (p a))
    (hg : ∀ b, Suite.ofDatum room (g b) = .ok (q b)) (l : List α) (m : List β)
    (names : NameTable) :
    ofData room (l.map f) (m.map g) names = .ok (ofLists (l.map p) (m.map q) names) := by
  have hl : (l.map f).mapM (Suite.ofDatum room) = .ok (l.map p) := by
    rw [List.mapM_map, show Suite.ofDatum room ∘ f = (pure <| p ·) from funext hf]
    exact List.mapM_pure
  have hm : (m.map g).mapM (Suite.ofDatum room) = .ok (m.map q) := by
    rw [List.mapM_map, show Suite.ofDatum room ∘ g = (pure <| q ·) from funext hg]
    exact List.mapM_pure
  rw [ofData, hl, hm]
  rfl

theorem ofData_attributes (room : Nat) (all offered : List Attributes) (names : NameTable) :
    ofData room (all.map Attributes.datum) (offered.map Attributes.datum) names =
      .ok (ofLists (all.map Attributes.suite) (offered.map Attributes.suite) names) :=
  ofData_map (Attributes.ofDatum_datum room) (Attributes.ofDatum_datum room) all offered names

theorem mem_sortedDefaults_iff {c : Catalog} {s : Suite} : s ∈ c.sortedDefaults ↔ s ∈ c.defaults :=
  List.mem_mergeSort

theorem holds_beyondDefaults_iff {c : Catalog} {s : Suite} :
    Criterion.beyondDefaults.holds c.defaults.toList s ↔ s.isNull = false ∧ s ∉ c.defaults := by
  simp [Criterion.holds, Distinct.mem_def]

theorem ofEntries_suites (suites defaults : List Suite) (names : NameTable) :
    ofEntries (suites.map .suite) (defaults.map .suite) names =
      .ok (ofLists suites defaults names) := by
  have hnone : ∀ p, (suites.map Entry.suite ++ defaults.map Entry.suite).findSome?
      (Entry.other? p) = none := by
    intro p
    rw [List.findSome?_eq_none_iff, ← List.map_append, List.forall_mem_map]
    exact fun _ _ => rfl
  have hsuites : ∀ l : List Suite, (l.map Entry.suite).filterMap Entry.suite? = l := by
    intro l
    rw [List.filterMap_map]
    exact List.filterMap_some
  rw [ofEntries, hnone, hnone, hsuites, hsuites]

/-- A catalog holds no repetitions, so there is nothing to remove when one is made of it. -/
theorem ofLists_toList (c : Catalog) : ofLists c.suites.toList c.defaults.toList c.names = c :=
  ext (Distinct.ext (Distinct.firsts_eq_self c.suites.nodup))
    (Distinct.ext (Distinct.firsts_eq_self c.defaults.nodup)) rfl

/-- A list of suites, each given by any three or four texts, gives a catalog of the suites that it
denotes, whatever its repetitions: each once, and in the order in which they first appear. To leave
out the last attribute is to give that of the protocol. What counts as a default is what the list of
defaults denotes. The catalog of what a catalog holds, given by attributes or as it is, is that
catalog again, names and all; and two lists give the same suites exactly if the suites they denote
are the same and first appear in the same order. -/
theorem ofData_canonical (room : Nat) (all offered : List Attributes) (names : NameTable) :
    (∀ l : List String, (∃ a : Attributes, a.items = l) ↔ l.length = 3 ∨ l.length = 4) ∧
    ∃ c, ofData room (all.map Attributes.datum) (offered.map Attributes.datum) names = .ok c ∧
      Distinct.IsFirsts (all.map Attributes.suite) c.suites.toList ∧
      Distinct.IsFirsts (offered.map Attributes.suite) c.defaults.toList ∧
      c.names = names ∧
      c.sortedDefaults.Nodup ∧
      (∀ s, s ∈ c.sortedDefaults ↔ s ∈ offered.map Attributes.suite) ∧
      (∀ s, Criterion.beyondDefaults.holds c.defaults.toList s ↔
        s.isNull = false ∧ s ∉ offered.map Attributes.suite) ∧
      (∀ keyExchange cipher mac,
        Suite.ofDatum room (.list [.text keyExchange, .text cipher, .text mac]) =
          Suite.ofDatum room
            (.list [.text keyExchange, .text cipher, .text mac, .text "default_prf"])) ∧
      ofData room (c.suites.toList.map Suite.datum) (c.defaults.toList.map Suite.datum) names =
        .ok c ∧
      ofEntries (c.suites.toList.map .suite) (c.defaults.toList.map .suite) names = .ok c ∧
      ∀ (others othersOffered : List Attributes) (otherNames : NameTable), ∃ d,
        ofData room (others.map Attributes.datum) (othersOffered.map Attributes.datum) otherNames =
          .ok d ∧
        (d.suites = c.suites ↔
          Distinct.SameFirsts (others.map Attributes.suite) (all.map Attributes.suite)) ∧
        (d.defaults = c.defaults ↔
          Distinct.SameFirsts (othersOffered.map Attributes.suite)
            (offered.map Attributes.suite)) := by
  have hself := ofLists_toList
    (ofLists (all.map Attributes.suite) (offered.map Attributes.suite) names)
  have hdefault : ∀ s, s ∈ Distinct.ofList (offered.map Attributes.suite) ↔
      s ∈ offered.map Attributes.suite := fun s => Distinct.mem_firsts
  refine ⟨Attributes.exists_items_eq_iff, _, ofData_attributes room all offered names,
    Distinct.isFirsts_firsts _, Distinct.isFirsts_firsts _, rfl, ?_, ?_, ?_, fun _ _ _ => rfl,
    ?_, ?_, ?_⟩
  · exact (List.mergeSort_perm _ _).nodup_iff.mpr (Distinct.nodup_firsts _)
  · exact fun s => mem_sortedDefaults_iff.trans (hdefault s)
  · exact fun s => holds_beyondDefaults_iff.trans (and_congr_right' (not_congr (hdefault s)))
  · rw [ofData_map (Suite.ofDatum_datum room) (Suite.ofDatum_datum room), List.map_id',
      List.map_id']
    exact congrArg Except.ok hself
  · rw [ofEntries_suites]
    exact congrArg Except.ok hself
  · intro others othersOffered otherNames
    refine ⟨_, ofData_attributes room others othersOffered otherNames, ?_, ?_⟩
    · exact Distinct.ext_iff.trans Distinct.firsts_eq_firsts_iff
    · exact Distinct.ext_iff.trans Distinct.firsts_eq_firsts_iff

/-- Two ways to give one suite, a suite that comes back, and a default that is no suite of the
catalog. -/
theorem ofData_canonical_of_repetitions :
    ∃ c d, ofData 0
        ([⟨"rsa", "aes_128_cbc", "sha", none⟩, ⟨"rsa", "aes_128_cbc", "sha", some "default_prf"⟩,
          ⟨"rsa", "null", "sha", none⟩, ⟨"rsa", "aes_128_cbc", "sha", none⟩].map Attributes.datum)
        ([⟨"rsa", "aes_256_cbc", "sha", none⟩].map Attributes.datum) .empty = .ok c ∧
      ofData 0
        ([⟨"rsa", "aes_128_cbc", "sha", none⟩, ⟨"rsa", "null", "sha", none⟩].map Attributes.datum)
        (List.map Attributes.datum []) .empty = .ok d ∧
      d.suites = c.suites ∧ d.defaults ≠ c.defaults ∧
      Criterion.beyondDefaults.holds c.defaults.toList
        ⟨"rsa", "aes_128_cbc", "sha", "default_prf"⟩ ∧
      ⟨"rsa", "aes_256_cbc", "sha", "default_prf"⟩ ∈ c.sortedDefaults ∧
      ofEntries (c.suites.toList.map .suite) (c.defaults.toList.map .suite) .empty = .ok c := by
  obtain ⟨-, c, hc, -, -, -, -, hdefaults, hbeyond, -, -, hentries, hothers⟩ := ofData_canonical 0
    [⟨"rsa", "aes_128_cbc", "sha", none⟩, ⟨"rsa", "aes_128_cbc", "sha", some "default_prf"⟩,
      ⟨"rsa", "null", "sha", none⟩, ⟨"rsa", "aes_128_cbc", "sha", none⟩]
    [⟨"rsa", "aes_256_cbc", "sha", none⟩] .empty
  obtain ⟨d, hd, hsuites, hsame⟩ := hothers
    [⟨"rsa", "aes_128_cbc", "sha", none⟩, ⟨"rsa", "null", "sha", none⟩] [] .empty
  refine ⟨c, d, hc, hd, hsuites.mpr (Distinct.firsts_eq_firsts_iff.mp (by decide)), ?_,
    (hbeyond _).mpr (by decide), (hdefaults _).mpr (by decide), hentries⟩
  intro h
  exact absurd (Distinct.firsts_eq_firsts_iff.mpr (hsame.mp h)) (by decide)

end Catalog

end CipherString
