import CipherString.Proofs.Display
import CipherString.Proofs.Spelling

namespace CipherString

section Words

variable {word : String}

theorem UnknownToken.ofWord?_eq_some_iff {choice : UnknownToken} :
    ofWord? word = some choice ↔ word = choice.word := by
  cases choice <;> grind [ofWord?, UnknownToken.word]

theorem UnknownToken.exists_ofWord?_iff :
    (∃ choice, ofWord? word = some choice) ↔ word ∈ ["STRICT", "EMPTY"] := by
  rw [← Option.isSome_iff_exists]
  grind [ofWord?]

theorem CatalogSource.ofWord?_eq_some_iff {source : CatalogSource} :
    ofWord? word = some source ↔ word = source.word := by
  cases source <;> grind [ofWord?, CatalogSource.word]

theorem CatalogSource.exists_ofWord?_iff :
    (∃ source, ofWord? word = some source) ↔ word ∈ ["BUILTIN", "HOST"] := by
  rw [← Option.isSome_iff_exists]
  grind [ofWord?]

end Words

namespace Policy

open Text

variable {room : Nat} {unknownToken catalogSource value : Datum}

theorem exists_wordOfDatum_iff :
    (∃ word, wordOfDatum room value = .ok word) ↔ value.IsShown room := by
  rw [← Datum.exists_display_iff, wordOfDatum]
  cases value.display room with
  | error fault => simp [Except.map]
  | ok shown => simp [Except.map]

theorem mem_obstacles_of_wordOfDatum {fault : Fault}
    (h : wordOfDatum room value = .error fault) : fault ∈ Datum.obstacles := by
  cases hdisplay : value.display room with
  | error other =>
      rw [wordOfDatum, hdisplay] at h
      obtain rfl := Except.error.inj h
      exact Datum.mem_obstacles_of_display hdisplay
  | ok shown =>
      rw [wordOfDatum, hdisplay] at h
      cases h

/-- A value that spells a word can be shown, and so stands in the fault about it. -/
theorem exists_reject_of_wordOfDatum {word : String} (h : wordOfDatum room value = .ok word)
    (setting : Setting) : ∃ shown, value.quoted room = .ok shown ∧
      reject room setting value = .error (.badSetting setting shown) := by
  obtain ⟨shown, hshown⟩ := (exists_wordOfDatum_iff.mp ⟨word, h⟩).exists_quoted
  refine ⟨shown, hshown, ?_⟩
  rw [reject, hshown]
  rfl

theorem ofSettings_of_first_error {fault : Fault}
    (h : wordOfDatum room unknownToken = .error fault) (catalogSource : Datum) :
    ofSettings room unknownToken catalogSource = .error fault := by
  rw [ofSettings, h]
  rfl

section Shown

variable {choice source : String} (hchoice : wordOfDatum room unknownToken = .ok choice)
include hchoice

theorem ofSettings_of_second_error {fault : Fault}
    (h : wordOfDatum room catalogSource = .error fault) :
    ofSettings room unknownToken catalogSource = .error fault := by
  rw [ofSettings, hchoice, h]
  rfl

variable (hsource : wordOfDatum room catalogSource = .ok source)
include hsource

theorem ofSettings_of_words : ofSettings room unknownToken catalogSource =
    match UnknownToken.ofWord? choice with
    | none => reject room .unknownToken unknownToken
    | some unknown =>
      match CatalogSource.ofWord? source with
      | none => reject room .catalogSource catalogSource
      | some catalog => .ok ⟨unknown, catalog⟩ := by
  rw [ofSettings, hchoice, hsource]
  rfl

/-- The first setting is judged whatever the second one spells. -/
theorem ofSettings_of_unknownToken (h : choice ∉ ["STRICT", "EMPTY"]) :
    ∃ shown, unknownToken.quoted room = .ok shown ∧
      ofSettings room unknownToken catalogSource = .error (.badSetting .unknownToken shown) := by
  rw [← UnknownToken.exists_ofWord?_iff, ← Option.isSome_iff_exists,
    Option.not_isSome_iff_eq_none] at h
  rw [ofSettings_of_words hchoice hsource, h]
  exact exists_reject_of_wordOfDatum hchoice .unknownToken

theorem ofSettings_of_catalogSource (hunknown : choice ∈ ["STRICT", "EMPTY"])
    (h : source ∉ ["BUILTIN", "HOST"]) : ∃ shown, catalogSource.quoted room = .ok shown ∧
      ofSettings room unknownToken catalogSource = .error (.badSetting .catalogSource shown) := by
  rw [← CatalogSource.exists_ofWord?_iff, ← Option.isSome_iff_exists,
    Option.not_isSome_iff_eq_none] at h
  obtain ⟨unknown, hunknown⟩ := UnknownToken.exists_ofWord?_iff.mpr hunknown
  rw [ofSettings_of_words hchoice hsource, hunknown, h]
  exact exists_reject_of_wordOfDatum hsource .catalogSource

end Shown

theorem ofSettings_eq_ok_iff {policy : Policy} :
    ofSettings room unknownToken catalogSource = .ok policy ↔
      wordOfDatum room unknownToken = .ok policy.unknownToken.word ∧
        wordOfDatum room catalogSource = .ok policy.catalogSource.word := by
  cases hchoice : wordOfDatum room unknownToken with
  | error fault => simp [ofSettings_of_first_error hchoice]
  | ok choice =>
      cases hsource : wordOfDatum room catalogSource with
      | error fault => simp [ofSettings_of_second_error hchoice hsource]
      | ok source =>
          rw [Except.ok.injEq, Except.ok.injEq, ← UnknownToken.ofWord?_eq_some_iff,
            ← CatalogSource.ofWord?_eq_some_iff, ofSettings_of_words hchoice hsource]
          obtain ⟨shown, -, hunknown⟩ := exists_reject_of_wordOfDatum hchoice .unknownToken
          obtain ⟨other, -, hcatalog⟩ := exists_reject_of_wordOfDatum hsource .catalogSource
          obtain ⟨unknown, catalog⟩ := policy
          cases UnknownToken.ofWord? choice with
          | none => simp [hunknown]
          | some found =>
              cases CatalogSource.ofWord? source with
              | none => simp [hcatalog]
              | some foundCatalog => simp

theorem exists_ofSettings_iff :
    (∃ policy, ofSettings room unknownToken catalogSource = .ok policy) ↔
      (∃ choice ∈ ["STRICT", "EMPTY"], wordOfDatum room unknownToken = .ok choice) ∧
        ∃ source ∈ ["BUILTIN", "HOST"], wordOfDatum room catalogSource = .ok source := by
  constructor
  · rintro ⟨policy, h⟩
    obtain ⟨hunknown, hcatalog⟩ := ofSettings_eq_ok_iff.mp h
    exact ⟨⟨_, UnknownToken.exists_ofWord?_iff.mp ⟨_, UnknownToken.ofWord?_eq_some_iff.mpr rfl⟩,
        hunknown⟩,
      _, CatalogSource.exists_ofWord?_iff.mp ⟨_, CatalogSource.ofWord?_eq_some_iff.mpr rfl⟩,
        hcatalog⟩
  · rintro ⟨⟨choice, hchoice, hunknown⟩, source, hsource, hcatalog⟩
    obtain ⟨unknown, hchoice⟩ := UnknownToken.exists_ofWord?_iff.mpr hchoice
    obtain ⟨catalog, hsource⟩ := CatalogSource.exists_ofWord?_iff.mpr hsource
    rw [UnknownToken.ofWord?_eq_some_iff.mp hchoice] at hunknown
    rw [CatalogSource.ofWord?_eq_some_iff.mp hsource] at hcatalog
    exact ⟨⟨unknown, catalog⟩, ofSettings_eq_ok_iff.mpr ⟨hunknown, hcatalog⟩⟩

theorem isPlain_word : ∀ word ∈ ["STRICT", "EMPTY", "BUILTIN", "HOST"], IsPlain word.toList := by
  have hplain : ∀ word ∈ ["STRICT", "EMPTY", "BUILTIN", "HOST"],
      (word.toList.all fun x => x ∈ capitals) ∧
        ∀ entry ∈ expansions, entry.2.map Char.ofNat <:+: word.toList → entry.2 = [0x53, 0x54] := by
    decide +kernel
  intro word hword
  obtain ⟨hcapital, himage⟩ := hplain word hword
  exact ⟨List.all_iff_forall_prop.mp hcapital, himage⟩

theorem isPlain_unknownToken (choice : UnknownToken) : IsPlain choice.word.toList := by
  cases choice with
  | strict => exact isPlain_word "STRICT" (by decide)
  | empty => exact isPlain_word "EMPTY" (by decide)

theorem isPlain_catalogSource (source : CatalogSource) : IsPlain source.word.toList := by
  cases source with
  | builtin => exact isPlain_word "BUILTIN" (by decide)
  | host => exact isPlain_word "HOST" (by decide)

theorem ofSettings_words (room : Nat) (policy : Policy) :
    ofSettings room (.text policy.unknownToken.word) (.text policy.catalogSource.word) =
      .ok policy := by
  rw [ofSettings_eq_ok_iff]
  exact ⟨congrArg Except.ok
      ((wordOf_eq_iff (isPlain_unknownToken _) _).mpr (isSpelling_self _)),
    congrArg Except.ok ((wordOf_eq_iff (isPlain_catalogSource _) _).mpr (isSpelling_self _))⟩

theorem toOption_ofSettings_of_alike {s t u v : String} (hst : Alike s t) (huv : Alike u v)
    (room : Nat) : (ofSettings room (.text s) (.text u)).toOption =
      (ofSettings room (.text t) (.text v)).toOption := by
  rw [ofSettings_of_words rfl rfl, ofSettings_of_words rfl rfl, wordOf_eq_of_alike hst,
    wordOf_eq_of_alike huv]
  cases UnknownToken.ofWord? (wordOf t) with
  | none => rfl
  | some unknown =>
      cases CatalogSource.ofWord? (wordOf v) with
      | none => rfl
      | some catalog => rfl

/-- Two settings make a policy exactly if each spells one of its words, and the policy has these
words. If both can be shown and they make none, the fault is about the first that spells no word. If
one cannot be shown, that is the fault, before either is judged; texts can always be shown. So a
policy is made again from its own words, and it does not matter how a text that spells a word is
written. -/
theorem ofSettings_normalises :
    (∀ (room : Nat) (unknownToken catalogSource : Datum) (policy : Policy),
      ofSettings room unknownToken catalogSource = .ok policy ↔
        wordOfDatum room unknownToken = .ok policy.unknownToken.word ∧
          wordOfDatum room catalogSource = .ok policy.catalogSource.word) ∧
    (∀ (room : Nat) (unknownToken catalogSource : Datum),
      (∃ policy, ofSettings room unknownToken catalogSource = .ok policy) ↔
        (∃ choice ∈ ["STRICT", "EMPTY"], wordOfDatum room unknownToken = .ok choice) ∧
          ∃ source ∈ ["BUILTIN", "HOST"], wordOfDatum room catalogSource = .ok source) ∧
    (∀ (room : Nat) (unknownToken catalogSource : Datum) (choice source : String),
      wordOfDatum room unknownToken = .ok choice → wordOfDatum room catalogSource = .ok source →
      (choice ∉ ["STRICT", "EMPTY"] → ∃ shown, unknownToken.quoted room = .ok shown ∧
        ofSettings room unknownToken catalogSource =
          .error (.badSetting .unknownToken shown)) ∧
      (choice ∈ ["STRICT", "EMPTY"] → source ∉ ["BUILTIN", "HOST"] →
        ∃ shown, catalogSource.quoted room = .ok shown ∧
          ofSettings room unknownToken catalogSource =
            .error (.badSetting .catalogSource shown))) ∧
    (∀ (room : Nat) (value : Datum),
      ((∃ word, wordOfDatum room value = .ok word) ↔ value.IsShown room) ∧
      ∀ fault, wordOfDatum room value = .error fault →
        (fault = .integerTooLong ∨ fault = .nestedTooDeep) ∧
        (∀ catalogSource, ofSettings room value catalogSource = .error fault) ∧
        ∀ unknownToken, unknownToken.IsShown room →
          ofSettings room unknownToken value = .error fault) ∧
    (∀ (room : Nat) (s : String), wordOfDatum room (.text s) = .ok (wordOf s)) ∧
    (∀ (room : Nat) (policy : Policy),
      ofSettings room (.text policy.unknownToken.word) (.text policy.catalogSource.word) =
        .ok policy) ∧
    (∀ (room : Nat) (s t u v : String), Alike s t → Alike u v →
      (ofSettings room (.text s) (.text u)).toOption =
        (ofSettings room (.text t) (.text v)).toOption) ∧
    (∀ (s : String), ∀ word ∈ ["STRICT", "EMPTY", "BUILTIN", "HOST"],
      wordOf s = word ↔ IsSpelling s word) ∧
    ∀ (room : Nat) (environment : Environment), ofEnvironment environment =
      ofSettings room (.text (environment.unknownToken.getD "STRICT"))
        (.text (environment.catalogSource.getD "BUILTIN")) := by
  refine ⟨fun _ _ _ _ => ofSettings_eq_ok_iff, fun _ _ _ => exists_ofSettings_iff, ?_, ?_,
    fun _ _ => rfl, ofSettings_words, ?_, ?_, fun _ _ => rfl⟩
  · intro room unknownToken catalogSource choice source hchoice hsource
    exact ⟨ofSettings_of_unknownToken hchoice hsource, ofSettings_of_catalogSource hchoice hsource⟩
  · intro room value
    refine ⟨exists_wordOfDatum_iff, fun fault h => ⟨?_, ofSettings_of_first_error h, ?_⟩⟩
    · simpa [Datum.obstacles] using mem_obstacles_of_wordOfDatum h
    · intro unknownToken hshown
      obtain ⟨choice, hchoice⟩ := exists_wordOfDatum_iff.mpr hshown
      exact ofSettings_of_second_error hchoice h
  · intro room s t u v hst huv
    exact toOption_ofSettings_of_alike hst huv room
  · intro s word hword
    exact wordOf_eq_iff (isPlain_word word hword) s

theorem ofSettings_normalises_of_ligature :
    ofSettings 0 (.text "\u2003\ufb05r\u0131ct") (.text "ho\ufb06") = .ok ⟨.strict, .host⟩ ∧
    ofSettings 0 .null (.text "local") = .error (.badSetting .unknownToken "None") ∧
    ofSettings 0 (.text "empty") (.flag true) = .error (.badSetting .catalogSource "True") ∧
    ofSettings 0 (.text "LOOSE") (.whole (10 ^ 5000 : Nat)) = .error .integerTooLong ∧
    ofSettings 1 (.list [.list [.null]]) (.text "local") = .error .nestedTooDeep ∧
    (ofSettings 0 (.text " Empty") (.text "HOST")).toOption =
      (ofSettings 0 (.text "eMPTY") (.text "Host\n")).toOption ∧
    IsSpelling "ho\ufb06" "HOST" := by
  obtain ⟨hwords, -, hjudged, hunshown, -, -, halike, hspelling, -⟩ := ofSettings_normalises
  have hempty : Alike " Empty" "eMPTY" :=
    ⟨"Empty".toList, "eMPTY".toList, ⟨[' '], [], by decide, List.forall_mem_singleton.mpr rfl⟩,
      ⟨[], [], by decide, List.forall_mem_nil _⟩, by decide⟩
  have hhost : Alike "HOST" "Host\n" :=
    ⟨"HOST".toList, "Host".toList, ⟨[], [], by decide, List.forall_mem_nil _⟩,
      ⟨[], ['\n'], by decide, List.forall_mem_singleton.mpr rfl⟩, by decide⟩
  have hlong : wordOfDatum 0 (.whole (10 ^ 5000 : Nat)) = .error .integerTooLong := by
    have hdigits : Decimal.maxDigits < (Nat.toDigits 10 ((10 ^ 5000 : Nat) : Int).natAbs).length := by
      decide +kernel
    exact congrArg (Except.map wordOf) (Datum.display_whole_of_long hdigits 0)
  have hdeep : wordOfDatum 1 (.list [.list [.null]]) = .error .nestedTooDeep := rfl
  refine ⟨?_, ?_, ?_, ?_, ?_, halike 0 _ _ _ _ hempty hhost, ?_⟩
  · refine (hwords 0 _ _ ⟨.strict, .host⟩).mpr ⟨congrArg Except.ok ?_, congrArg Except.ok ?_⟩
    · decide +kernel
    · decide +kernel
  · obtain ⟨shown, hshown, h⟩ :=
      (hjudged 0 .null (.text "local") _ _ rfl rfl).1 (by decide +kernel)
    obtain rfl : "None" = shown := Except.ok.inj hshown
    exact h
  · obtain ⟨shown, hshown, h⟩ :=
      (hjudged 0 (.text "empty") (.flag true) _ _ rfl rfl).2 (by decide +kernel) (by decide +kernel)
    obtain rfl : "True" = shown := Except.ok.inj hshown
    exact h
  · exact ((hunshown 0 _).2 _ hlong).2.2 (.text "LOOSE") (.text "LOOSE")
  · exact ((hunshown 1 _).2 _ hdeep).2.1 (.text "local")
  · exact (hspelling "ho\ufb06" "HOST" (by decide)).mp (by decide +kernel)

end Policy

end CipherString
