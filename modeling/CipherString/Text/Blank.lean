namespace CipherString.Text

/-- A character of white space: the space, the line and page breaks, the four information
separators below the space, and the spaces of other widths. The zero-width space and the byte order
mark are none. -/
def isBlank (c : Char) : Bool :=
  let n := c.toNat
  (0x9 ≤ n && n ≤ 0xd) || (0x1c ≤ n && n ≤ 0x20) || n == 0x85 || n == 0xa0 || n == 0x1680 ||
    (0x2000 ≤ n && n ≤ 0x200a) || n == 0x2028 || n == 0x2029 || n == 0x202f || n == 0x205f ||
    n == 0x3000

def dropEndWhile {α : Type} (p : α → Bool) (l : List α) : List α :=
  (l.reverse.dropWhile p).reverse

section DropEndWhile

variable {α : Type} {p : α → Bool}

theorem dropEndWhile_append {back : List α} (h : ∀ a ∈ back, p a) (front : List α) :
    dropEndWhile p (front ++ back) = dropEndWhile p front := by
  rw [dropEndWhile, dropEndWhile, List.reverse_append, List.dropWhile_append_of_pos]
  intro a ha
  exact h a (List.mem_reverse.mp ha)

/-- What is dropped meets the condition, and with it the list is whole again. -/
theorem exists_dropEndWhile_append (p : α → Bool) (l : List α) :
    ∃ back, l = dropEndWhile p l ++ back ∧ ∀ a ∈ back, p a := by
  refine ⟨(l.reverse.takeWhile p).reverse, ?_, ?_⟩
  · rw [dropEndWhile, ← List.reverse_append, List.takeWhile_append_dropWhile, List.reverse_reverse]
  · intro a ha
    exact List.all_eq_true.mp List.all_takeWhile a (List.mem_reverse.mp ha)

end DropEndWhile

def trim (s : String) : String :=
  String.ofList (dropEndWhile isBlank (s.toList.dropWhile isBlank))

end CipherString.Text
