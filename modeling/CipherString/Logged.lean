import CipherString.Notice

namespace CipherString

/-- The notices of a computation, in order, and its result. -/
structure Logged (α : Type) where
  notices : List Notice
  outcome : Except Fault α

namespace Logged

variable {α β : Type}

@[ext] theorem ext {x y : Logged α} (hn : x.notices = y.notices) (ho : x.outcome = y.outcome) :
    x = y := by
  cases x; cases y; cases hn; cases ho; rfl

protected def pure (a : α) : Logged α :=
  ⟨[], .ok a⟩

/-- One computation after another; the second runs only if the first succeeds. -/
protected def bind (x : Logged α) (f : α → Logged β) : Logged β :=
  match x.outcome with
  | .ok a =>
    let rest := f a
    ⟨x.notices ++ rest.notices, rest.outcome⟩
  | .error fault => ⟨x.notices, .error fault⟩

instance : Monad Logged where
  pure := Logged.pure
  bind := Logged.bind

def report (notice : Notice) : Logged Unit :=
  ⟨[notice], .ok ()⟩

def fail (fault : Fault) : Logged α :=
  ⟨[], .error fault⟩

def ofExcept (x : Except Fault α) : Logged α :=
  ⟨[], x⟩

/-- The computation whose result is the outcome of `x`, be it a failure: it does not fail. -/
def attempt (x : Logged α) : Logged (Except Fault α) :=
  ⟨x.notices, .ok x.outcome⟩

def times (n : Nat) (x : Logged Unit) : Logged Unit :=
  match n, x.outcome with
  | 0, _ => pure ()
  | _, .error _ => x
  | n, .ok _ => ⟨(List.replicate n x.notices).flatten, .ok ()⟩

@[simp] theorem notices_pure (a : α) : (pure a : Logged α).notices = [] := rfl

@[simp] theorem outcome_pure (a : α) : (pure a : Logged α).outcome = .ok a := rfl

theorem bind_of_ok {x : Logged α} {a : α} (h : x.outcome = .ok a) (f : α → Logged β) :
    x >>= f = ⟨x.notices ++ (f a).notices, (f a).outcome⟩ := by
  change Logged.bind x f = _
  simp [Logged.bind, h]

theorem bind_of_error {x : Logged α} {fault : Fault} (h : x.outcome = .error fault)
    (f : α → Logged β) : x >>= f = ⟨x.notices, .error fault⟩ := by
  change Logged.bind x f = _
  simp [Logged.bind, h]

private theorem id_map_self (x : Logged α) : id <$> x = x := by
  cases h : x.outcome <;> apply Logged.ext <;>
    simp [Functor.map, h, Logged.bind, Logged.pure]

private theorem pure_bind_apply (a : α) (f : α → Logged β) : pure a >>= f = f a := by
  rw [bind_of_ok rfl]
  rfl

private theorem bind_assoc_apply {γ : Type} (x : Logged α) (f : α → Logged β)
    (g : β → Logged γ) : x >>= f >>= g = x >>= fun a => f a >>= g := by
  cases hx : x.outcome with
  | error fault => simp [bind_of_error hx, bind_of_error (x := ⟨x.notices, .error fault⟩) rfl]
  | ok a =>
    cases hf : (f a).outcome with
    | error fault =>
      rw [bind_of_ok hx, bind_of_ok hx, bind_of_error (by simpa using hf), bind_of_error hf]
    | ok b =>
      rw [bind_of_ok hx, bind_of_ok hx, bind_of_ok (by simpa using hf), bind_of_ok hf]
      simp

instance : LawfulMonad Logged :=
  LawfulMonad.mk' Logged id_map_self pure_bind_apply bind_assoc_apply

theorem ofExcept_ok (a : α) : ofExcept (.ok a) = (pure a : Logged α) := rfl

theorem ofExcept_error (fault : Fault) : ofExcept (.error fault) = (fail fault : Logged α) := rfl

@[simp] theorem notices_report (notice : Notice) : (report notice).notices = [notice] := rfl

@[simp] theorem outcome_report (notice : Notice) : (report notice).outcome = .ok () := rfl

@[simp] theorem notices_fail (fault : Fault) : (fail fault : Logged α).notices = [] := rfl

@[simp] theorem outcome_fail (fault : Fault) : (fail fault : Logged α).outcome = .error fault := rfl

@[simp] theorem notices_map (f : α → β) (x : Logged α) : (f <$> x).notices = x.notices := by
  rw [← bind_pure_comp]
  cases h : x.outcome with
  | error fault => rw [bind_of_error h]
  | ok a =>
      rw [bind_of_ok h]
      exact List.append_nil _

@[simp] theorem outcome_bind (x : Logged α) (f : α → Logged β) :
    (x >>= f).outcome = x.outcome >>= fun a => (f a).outcome := by
  cases h : x.outcome with
  | error fault =>
      rw [bind_of_error h]
      rfl
  | ok a =>
      rw [bind_of_ok h]
      rfl

end Logged

end CipherString
