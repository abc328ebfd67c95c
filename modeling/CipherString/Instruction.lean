namespace CipherString

inductive Modifier where
  /-- Add those not yet there, at the end. -/
  | append
  /-- Remove them, and never let them in again. -/
  | ban
  /-- Remove them; they may be added again. -/
  | delete
  /-- Move those that are there to the end. -/
  | moveToEnd
  deriving DecidableEq, Repr

inductive Instruction where
  | sortByStrength
  /-- Set a security level, which is understood and has no effect. -/
  | securityLevel
  | unknownDirective
  | modify (modifier : Modifier) (body : String)
  deriving DecidableEq, Repr

namespace Instruction

def sortDirective : String := "@STRENGTH"

def levelDirective : String := "@SECLEVEL="

/-- What a token asks for. A token without a modifier is its own body. -/
def ofToken (token : String) : Instruction :=
  match token.toList with
  | '@' :: _ =>
    if token = sortDirective then sortByStrength
    else if levelDirective.toList.isPrefixOf token.toList then securityLevel
    else unknownDirective
  | '!' :: body => modify .ban (String.ofList body)
  | '-' :: body => modify .delete (String.ofList body)
  | '+' :: body => modify .moveToEnd (String.ofList body)
  | _ => modify .append token

theorem eq_sortDirective_of_ofToken {token : String} (h : ofToken token = sortByStrength) :
    token = sortDirective := by
  rw [ofToken] at h
  split at h
  · split at h
    · assumption
    · split at h <;> cases h
  all_goals cases h

theorem ofToken_ban (body : String) : ofToken ("!" ++ body) = .modify .ban body := by
  have hlist : ("!" ++ body).toList = '!' :: body.toList := by
    rw [String.toList_append]
    rfl
  rw [ofToken, hlist]
  simp only [String.ofList_toList]

theorem ofToken_delete (body : String) : ofToken ("-" ++ body) = .modify .delete body := by
  have hlist : ("-" ++ body).toList = '-' :: body.toList := by
    rw [String.toList_append]
    rfl
  rw [ofToken, hlist]
  simp only [String.ofList_toList]

theorem ofToken_moveToEnd (body : String) : ofToken ("+" ++ body) = .modify .moveToEnd body := by
  have hlist : ("+" ++ body).toList = '+' :: body.toList := by
    rw [String.toList_append]
    rfl
  rw [ofToken, hlist]
  simp only [String.ofList_toList]

theorem eq_of_ofToken_append {token body : String} (h : ofToken token = .modify .append body) :
    body = token := by
  rw [ofToken] at h
  split at h
  · split at h
    · cases h
    · split at h
      · cases h
      · cases h
  · cases h
  · cases h
  · cases h
  · cases h
    rfl

theorem eq_append_of_ofToken_ban {token body : String} (h : ofToken token = modify .ban body) :
    token = "!" ++ body := by
  rw [ofToken] at h
  split at h
  · split at h
    · exact absurd h nofun
    · split at h
      · exact absurd h nofun
      · exact absurd h nofun
  · next htoken =>
      obtain ⟨-, rfl⟩ := modify.inj h
      apply String.toList_inj.mp
      simp [htoken]
  · exact absurd (modify.inj h).1 nofun
  · exact absurd (modify.inj h).1 nofun
  · exact absurd (modify.inj h).1 nofun

end Instruction

end CipherString
