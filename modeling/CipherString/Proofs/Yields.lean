import CipherString.Trial.Case

namespace CipherString.Trial

namespace Drawing

variable {σ α β : Type} {P : α → Prop} {Q : β → Prop} {x : Drawing σ α}

def Yields (x : Drawing σ α) (P : α → Prop) : Prop :=
  ∀ state, ∃ a, (x state).1.outcome = .ok a ∧ P a

theorem yields_pure {a : α} (ha : P a) : (pure a : Drawing σ α).Yields P :=
  fun _ => ⟨a, rfl, ha⟩

theorem Yields.bind {f : α → Drawing σ β} (hx : x.Yields P) (hf : ∀ a, P a → (f a).Yields Q) :
    (x >>= f).Yields Q := by
  intro state
  obtain ⟨a, houtcome, ha⟩ := hx state
  obtain ⟨b, hrest, hb⟩ := hf a ha (x state).2
  refine ⟨b, ?_, hb⟩
  show (Drawing.bind x f state).1.outcome = .ok b
  simp only [Drawing.bind, houtcome]
  exact hrest

theorem Yields.mono {R : α → Prop} (hx : x.Yields P) (himp : ∀ a, P a → R a) : x.Yields R := by
  intro state
  obtain ⟨a, houtcome, ha⟩ := hx state
  exact ⟨a, houtcome, himp a ha⟩

theorem yields_ofLogged {logged : Logged α} {a : α} (houtcome : logged.outcome = .ok a)
    (ha : P a) : (ofLogged logged : Drawing σ α).Yields P :=
  fun _ => ⟨a, houtcome, ha⟩

theorem yields_advance (f : σ → σ) : (advance f).Yields fun _ => True :=
  fun _ => ⟨(), rfl, trivial⟩

theorem yields_require {holds : Bool} (h : holds) (finding : Finding) :
    (require holds finding : Drawing σ Unit).Yields fun _ => True := by
  rw [require, if_pos h]
  exact yields_pure trivial

theorem Yields.times (hx : x.Yields P) (n : Nat) :
    (x.times n).Yields fun l => l.length = n ∧ ∀ a ∈ l, P a := by
  induction n with
  | zero => exact yields_pure ⟨rfl, fun a ha => absurd ha List.not_mem_nil⟩
  | succ n ih =>
      refine hx.bind fun a ha => ih.bind fun rest hrest => yields_pure ⟨?_, ?_⟩
      · rw [List.length_cons, hrest.1]
      · exact List.forall_mem_cons.mpr ⟨ha, hrest.2⟩

end Drawing

namespace Source

variable {σ α : Type} (source : Source σ)

theorem yields_happens (probability : Rat) :
    (source.happens probability).Yields fun _ => True :=
  fun _ => ⟨_, rfl, trivial⟩

theorem yields_choose {l : List α} (hl : l ≠ []) : (source.choose l).Yields (· ∈ l) := by
  have hchoose : source.choose l = _ := dif_pos (List.length_pos_iff.mpr hl)
  rw [hchoose]
  exact fun state => ⟨_, rfl, List.getElem_mem _⟩

theorem yields_between {first last : Int} (h : first ≤ last) :
    (source.between first last).Yields fun n => first ≤ n ∧ n ≤ last := by
  have hpositive : 0 < (last - first + 1).toNat := by omega
  have hbetween : source.between first last = _ := dif_pos hpositive
  rw [hbetween]
  intro state
  refine ⟨first + (source.below _ hpositive state).1, rfl, ?_⟩
  have hbelow := (source.below _ hpositive state).1.isLt
  omega

end Source

end CipherString.Trial
