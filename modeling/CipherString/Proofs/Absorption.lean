import CipherString.Proofs.Restriction
import CipherString.Proofs.RoundTrip

namespace CipherString

namespace Selection

variable {state : Selection} {suites : List Suite}

section Idle

theorem append_of_forall_mem (h : ∀ s ∈ suites, s ∈ state.chosen ∨ s ∈ state.banned) :
    state.append suites = state := by
  have hnone : suites.filter (fun s => s ∉ state.chosen ∧ s ∉ state.banned) = [] := by
    rw [List.filter_eq_nil_iff]
    intro s hs
    simpa [← not_or] using h s hs
  refine ext_of_chosen_of_toList_banned ?_ rfl
  simp only [append, hnone]
  exact List.append_nil state.chosen

theorem delete_of_forall_not_mem (h : ∀ s ∈ state.chosen, s ∉ suites) :
    state.delete suites = state :=
  ext_of_chosen_of_toList_banned (List.filter_eq_self.mpr (by simpa using h)) rfl

theorem moveToEnd_of_eq_append {rest moved : List Suite} (h : state.chosen = rest ++ moved)
    (hrest : ∀ s ∈ rest, s ∉ suites) (hmoved : ∀ s ∈ moved, s ∈ suites) :
    state.moveToEnd suites = state := by
  have hstay : state.chosen.filter (· ∉ suites) = rest := by
    rw [h, List.filter_append, List.filter_eq_self.mpr (by simpa using hrest),
      List.filter_eq_nil_iff.mpr (by simpa using hmoved), List.append_nil]
  have hmove : state.chosen.filter (· ∈ suites) = moved := by
    rw [h, List.filter_append, List.filter_eq_nil_iff.mpr (by simpa using hrest),
      List.filter_eq_self.mpr (by simpa using hmoved), List.nil_append]
  refine ext_of_chosen_of_toList_banned ?_ rfl
  show state.chosen.filter (· ∉ suites) ++ state.chosen.filter (· ∈ suites) = state.chosen
  rw [hstay, hmove, h]

theorem moveToEnd_of_forall_not_mem (h : ∀ s ∈ state.chosen, s ∉ suites) :
    state.moveToEnd suites = state :=
  moveToEnd_of_eq_append (List.append_nil state.chosen).symm h nofun

end Idle

variable (state : Selection) (suites : List Suite)

theorem filter_not_mem_new :
    (Distinct.firsts (suites.filter fun s => s ∉ state.chosen ∧ s ∉ state.banned)).filter
      (· ∉ suites) = [] := by
  rw [List.filter_eq_nil_iff]
  intro s hs
  rw [Distinct.mem_firsts] at hs
  simpa using (List.mem_filter.mp hs).1

theorem delete_append : (state.append suites).delete suites = state.delete suites := by
  simp only [append, delete, List.filter_append, filter_not_mem_new, List.append_nil]

theorem delete_moveToEnd : (state.moveToEnd suites).delete suites = state.delete suites := by
  refine ext_of_chosen_of_toList_banned ?_ rfl
  simp only [moveToEnd, delete, List.filter_append, List.filter_filter]
  simp

theorem moveToEnd_delete : (state.delete suites).moveToEnd suites = state.delete suites :=
  moveToEnd_of_forall_not_mem fun _ hs => (mem_chosen_delete.mp hs).2

theorem append_delete_append_empty :
    ((empty.append suites).delete suites).append suites = empty.append suites := by
  rw [delete_append]
  rfl

/-- What is appended stands at the end already, so it may as well be appended after the move. -/
theorem moveToEnd_append :
    (state.append suites).moveToEnd suites = (state.moveToEnd suites).append suites := by
  have hmove : (Distinct.firsts (suites.filter fun s => s ∉ state.chosen ∧ s ∉ state.banned)).filter
      (· ∈ suites) =
        Distinct.firsts (suites.filter fun s => s ∉ state.chosen ∧ s ∉ state.banned) := by
    rw [List.filter_eq_self]
    intro s hs
    rw [Distinct.mem_firsts] at hs
    simpa using (List.mem_filter.mp hs).1
  refine ext_of_chosen_of_toList_banned ?_ rfl
  simp only [append, mem_chosen_moveToEnd, banned_moveToEnd]
  simp only [moveToEnd, List.filter_append, filter_not_mem_new, hmove, List.append_nil,
    List.append_assoc]

theorem ban_delete : (state.delete suites).ban suites = state.ban suites := by
  refine ext_of_chosen_of_toList_banned ?_ rfl
  simp only [ban, delete, List.filter_filter]
  refine List.filter_congr fun s _ => ?_
  by_cases hs : s ∈ suites <;> simp [hs]

theorem ban_append : (state.append suites).ban suites = state.ban suites := by
  rw [← ban_delete, delete_append, ban_delete]

theorem ban_moveToEnd : (state.moveToEnd suites).ban suites = state.ban suites := by
  rw [← ban_delete, delete_moveToEnd, ban_delete]

theorem append_ban : (state.ban suites).append suites = state.ban suites :=
  append_of_forall_mem fun _ hs => Or.inr (mem_banned_ban.mpr (Or.inr hs))

theorem delete_ban : (state.ban suites).delete suites = state.ban suites :=
  delete_of_forall_not_mem fun _ hs => (mem_chosen_ban.mp hs).2.2

theorem moveToEnd_ban : (state.ban suites).moveToEnd suites = state.ban suites :=
  moveToEnd_of_forall_not_mem fun _ hs => (mem_chosen_ban.mp hs).2.2

theorem sortByStrength_delete :
    (state.delete suites).sortByStrength = state.sortByStrength.delete suites :=
  ext_of_chosen_of_toList_banned (filter_chosen_sortByStrength _ state).symm rfl

theorem sortByStrength_ban :
    (state.ban suites).sortByStrength = state.sortByStrength.ban suites :=
  ext_of_chosen_of_toList_banned (filter_chosen_sortByStrength _ state).symm rfl

end Selection

theorem Token.scan_readdition {body : String} (hword : IsWord body.toList) :
    scan (body ++ ":-" ++ body ++ ":" ++ body) = [body, "-" ++ body, body] := by
  have hdeleted : IsWord ("-" ++ body).toList := by
    rw [String.toList_append]
    exact ⟨List.cons_ne_nil _ _, List.forall_mem_cons.mpr ⟨by decide, hword.2⟩⟩
  have hmark : ":-" = ":" ++ "-" := rfl
  have hexpression : body ++ ":-" ++ body = body ++ ":" ++ ("-" ++ body) := by
    rw [hmark, String.append_assoc, String.append_assoc, String.append_assoc]
  rw [hexpression, scan_append_gap_append (by decide) (by decide),
    scan_append_gap_append (by decide) (by decide), scan_of_isWord hword, scan_of_isWord hdeleted]
  rfl

namespace Interpreter

/-- Two lists of tokens do the same: from any selection both succeed, and they end in one
selection. -/
def Agree (interpreter : Interpreter) (tokens others : List String) : Prop :=
  ∀ state, ∃ final, (interpreter.steps state tokens).outcome = .ok final ∧
    (interpreter.steps state others).outcome = .ok final

/-- How tokens of one body act on each other, and the sort on some of them. -/
structure BodyLaws (interpreter : Interpreter) (body : String) : Prop where
  delete_after_append : interpreter.Agree [body, "-" ++ body] ["-" ++ body]
  readdition : interpreter.Agree [body, "-" ++ body, body] ["-" ++ body, body]
  delete_after_move : interpreter.Agree ["+" ++ body, "-" ++ body] ["-" ++ body]
  move_after_delete : interpreter.Agree ["-" ++ body, "+" ++ body] ["-" ++ body]
  append_move_comm : interpreter.Agree [body, "+" ++ body] ["+" ++ body, body]
  ban_after_append : interpreter.Agree [body, "!" ++ body] ["!" ++ body]
  ban_after_move : interpreter.Agree ["+" ++ body, "!" ++ body] ["!" ++ body]
  ban_after_delete : interpreter.Agree ["-" ++ body, "!" ++ body] ["!" ++ body]
  append_after_ban : interpreter.Agree ["!" ++ body, body] ["!" ++ body]
  move_after_ban : interpreter.Agree ["!" ++ body, "+" ++ body] ["!" ++ body]
  delete_after_ban : interpreter.Agree ["!" ++ body, "-" ++ body] ["!" ++ body]
  delete_sort_comm : interpreter.Agree ["-" ++ body, "@STRENGTH"] ["@STRENGTH", "-" ++ body]
  ban_sort_comm : interpreter.Agree ["!" ++ body, "@STRENGTH"] ["@STRENGTH", "!" ++ body]

variable {interpreter : Interpreter} {body : String} {suites : List Suite}

theorem agree_of_reads {tokens others : List String} {effects otherEffects : List Effect}
    (h : interpreter.Reads tokens effects) (hother : interpreter.Reads others otherEffects)
    (hact : ∀ state : Selection,
      effects.foldl Selection.act state = otherEffects.foldl Selection.act state) :
    interpreter.Agree tokens others := by
  intro state
  refine ⟨_, outcome_steps_of_reads h state, ?_⟩
  rw [hact]
  exact outcome_steps_of_reads hother state

theorem outcome_evaluate_readdition (hplain : Token.isPlain body.toList)
    (hsuites : (interpreter.catalog.suitesOf interpreter.policy.unknownToken body).outcome =
      .ok suites) :
    (interpreter.evaluate (body ++ ":-" ++ body ++ ":" ++ body)).outcome =
      .ok (Selection.empty.append suites).suites := by
  have happend := outcome_read_of_suitesOf (Instruction.ofToken_of_isPlain hplain) hsuites
  have hdelete := outcome_read_of_suitesOf (Instruction.ofToken_delete body) hsuites
  have hreads : interpreter.Reads
      (spellOutDefault (Token.scan (body ++ ":-" ++ body ++ ":" ++ body)))
      [.modify .append suites, .modify .delete suites, .modify .append suites] := by
    rw [Token.scan_readdition (Token.isWord_of_isPlain hplain), spellOutDefault,
      if_neg (Token.ne_defaultToken_of_isPlain hplain)]
    exact .cons happend (.cons hdelete (.cons happend .nil))
  rw [outcome_evaluate_of_reads hreads]
  exact congrArg (fun state => Except.ok state.suites)
    (Selection.append_delete_append_empty suites)

theorem bodyLaws_of_suitesOf (hhead : ∀ c ∈ body.toList.head?, c ∉ '@' :: Token.modifiers)
    (hsuites : (interpreter.catalog.suitesOf interpreter.policy.unknownToken body).outcome =
      .ok suites) : interpreter.BodyLaws body := by
  have happend := outcome_read_of_suitesOf (Instruction.ofToken_eq_append hhead) hsuites
  have hban := outcome_read_of_suitesOf (Instruction.ofToken_ban body) hsuites
  have hdelete := outcome_read_of_suitesOf (Instruction.ofToken_delete body) hsuites
  have hmove := outcome_read_of_suitesOf (Instruction.ofToken_moveToEnd body) hsuites
  have hsort : (interpreter.read Instruction.sortDirective).outcome = .ok .sort := rfl
  constructor
  · exact agree_of_reads (.cons happend (.cons hdelete .nil)) (.cons hdelete .nil)
      (Selection.delete_append · suites)
  · exact agree_of_reads (.cons happend (.cons hdelete (.cons happend .nil)))
      (.cons hdelete (.cons happend .nil))
      fun state => congrArg (Selection.append · suites) (state.delete_append suites)
  · exact agree_of_reads (.cons hmove (.cons hdelete .nil)) (.cons hdelete .nil)
      (Selection.delete_moveToEnd · suites)
  · exact agree_of_reads (.cons hdelete (.cons hmove .nil)) (.cons hdelete .nil)
      (Selection.moveToEnd_delete · suites)
  · exact agree_of_reads (.cons happend (.cons hmove .nil)) (.cons hmove (.cons happend .nil))
      (Selection.moveToEnd_append · suites)
  · exact agree_of_reads (.cons happend (.cons hban .nil)) (.cons hban .nil)
      (Selection.ban_append · suites)
  · exact agree_of_reads (.cons hmove (.cons hban .nil)) (.cons hban .nil)
      (Selection.ban_moveToEnd · suites)
  · exact agree_of_reads (.cons hdelete (.cons hban .nil)) (.cons hban .nil)
      (Selection.ban_delete · suites)
  · exact agree_of_reads (.cons hban (.cons happend .nil)) (.cons hban .nil)
      (Selection.append_ban · suites)
  · exact agree_of_reads (.cons hban (.cons hmove .nil)) (.cons hban .nil)
      (Selection.moveToEnd_ban · suites)
  · exact agree_of_reads (.cons hban (.cons hdelete .nil)) (.cons hban .nil)
      (Selection.delete_ban · suites)
  · exact agree_of_reads (.cons hdelete (.cons hsort .nil)) (.cons hsort (.cons hdelete .nil))
      (Selection.sortByStrength_delete · suites)
  · exact agree_of_reads (.cons hban (.cons hsort .nil)) (.cons hsort (.cons hban .nil))
      (Selection.sortByStrength_ban · suites)

/-- Tokens of one body that is understood obey the laws of one body, in whatever selection. So a body
that is deleted and added again selects what it selects alone. -/
theorem laws_of_one_body (hhead : ∀ c ∈ body.toList.head?, c ∉ '@' :: Token.modifiers)
    (hsuites : (interpreter.catalog.suitesOf interpreter.policy.unknownToken body).outcome =
      .ok suites) :
    interpreter.BodyLaws body ∧
      ((∀ c ∈ body.toList, Token.isSeparator c = false) → body ≠ "DEFAULT" →
        ∃ selected,
          (interpreter.evaluate (body ++ ":-" ++ body ++ ":" ++ body)).outcome = .ok selected ∧
            (interpreter.evaluate body).outcome = .ok selected) := by
  refine ⟨bodyLaws_of_suitesOf hhead hsuites, ?_⟩
  intro hfree hdefault
  rcases eq_or_ne body "" with rfl | hne
  · -- The empty body is no token, and behind a modifier it finds nothing to delete.
    have hdelete := outcome_read_of_suitesOf (Instruction.ofToken_delete "") hsuites
    have hreads : interpreter.Reads (spellOutDefault (Token.scan ("" ++ ":-" ++ "" ++ ":" ++ "")))
        [.modify .delete suites] := .cons hdelete .nil
    exact ⟨[], outcome_evaluate_of_reads hreads, rfl⟩
  · have hplain : Token.isPlain body.toList := by
      refine Token.isPlain_iff.mpr ⟨by simpa using hne, hhead, hfree, ?_⟩
      exact fun heq => hdefault (String.toList_inj.mp heq)
    exact ⟨_, outcome_evaluate_readdition hplain hsuites,
      outcome_evaluate_of_isPlain hplain hsuites⟩

/-- Two suites of the sample, the one that does not encrypt in front. -/
def sampleSelection : Selection where
  chosen := [⟨"rsa", "null", "sha", "default_prf"⟩, ⟨"ecdhe_rsa", "aes_256_gcm", "aead", "sha384"⟩]

/-- One of the two suites of the body is in already, so that each token changes something. -/
theorem laws_of_one_body_of_kRSA :
    (∀ c ∈ "kRSA".toList.head?, c ∉ '@' :: Token.modifiers) ∧
      (sample.catalog.suitesOf sample.policy.unknownToken "kRSA").outcome =
        .ok [⟨"rsa", "aes_128_cbc", "sha", "default_prf"⟩, ⟨"rsa", "null", "sha", "default_prf"⟩] ∧
      sample.BodyLaws "kRSA" ∧
      (∃ final, (sample.steps sampleSelection ["kRSA", "+kRSA"]).outcome = .ok final ∧
        (sample.steps sampleSelection ["+kRSA", "kRSA"]).outcome = .ok final ∧
        final.chosen = [⟨"ecdhe_rsa", "aes_256_gcm", "aead", "sha384"⟩,
          ⟨"rsa", "null", "sha", "default_prf"⟩, ⟨"rsa", "aes_128_cbc", "sha", "default_prf"⟩]) ∧
      (∃ final, (sample.steps sampleSelection ["kRSA", "!kRSA"]).outcome = .ok final ∧
        (sample.steps sampleSelection ["!kRSA"]).outcome = .ok final ∧
        final.chosen = [⟨"ecdhe_rsa", "aes_256_gcm", "aead", "sha384"⟩] ∧
        final.banned.toList =
          [⟨"rsa", "aes_128_cbc", "sha", "default_prf"⟩, ⟨"rsa", "null", "sha", "default_prf"⟩]) ∧
      ∃ selected, (sample.evaluate "kRSA:-kRSA:kRSA").outcome = .ok selected ∧
        (sample.evaluate "kRSA").outcome = .ok selected ∧
        selected = [⟨"rsa", "aes_128_cbc", "sha", "default_prf"⟩,
          ⟨"rsa", "null", "sha", "default_prf"⟩] := by
  have hhead : ∀ c ∈ "kRSA".toList.head?, c ∉ '@' :: Token.modifiers := by
    rintro _ ⟨⟩
    decide
  have hsuites : (sample.catalog.suitesOf sample.policy.unknownToken "kRSA").outcome =
      .ok [⟨"rsa", "aes_128_cbc", "sha", "default_prf"⟩,
        ⟨"rsa", "null", "sha", "default_prf"⟩] := rfl
  have hword : Token.IsWord "kRSA".toList := by decide
  obtain ⟨hlaws, hselect⟩ := laws_of_one_body hhead hsuites
  refine ⟨hhead, hsuites, hlaws, ?_, ?_, ?_⟩
  · obtain ⟨final, hmoved, happended⟩ := hlaws.append_move_comm sampleSelection
    refine ⟨final, hmoved, happended, ?_⟩
    obtain rfl := Except.ok.inj hmoved
    rfl
  · obtain ⟨final, happended, hbanned⟩ := hlaws.ban_after_append sampleSelection
    refine ⟨final, happended, hbanned, ?_⟩
    obtain rfl := Except.ok.inj hbanned
    exact ⟨rfl, rfl⟩
  · obtain ⟨selected, hreadded, halone⟩ := hselect hword.2 (by decide)
    refine ⟨selected, hreadded, halone, ?_⟩
    obtain rfl := Except.ok.inj halone
    rfl

end Interpreter

end CipherString
