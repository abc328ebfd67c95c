import CipherString.Datum
import Mathlib.Algebra.Group.Nat.Defs

namespace CipherString.Datum

/-- A value that can be shown where there is so much room: each integer in it has at most
`Decimal.maxDigits` digits, and nothing in it lies in more lists and records than there is room
for. -/
inductive IsShown : Nat → Datum → Prop
  | null {room : Nat} : IsShown room .null
  | flag {room : Nat} (value : Bool) : IsShown room (.flag value)
  | whole {room : Nat} {value : Int} (h : value.natAbs < 10 ^ Decimal.maxDigits) :
      IsShown room (.whole value)
  | decimal {room : Nat} (negative : Bool) (digits places : Nat) :
      IsShown room (.decimal negative digits places)
  | text {room : Nat} (value : String) : IsShown room (.text value)
  | emptyList {room : Nat} : IsShown room (.list [])
  | list {room : Nat} {items : List Datum} (h : ∀ item ∈ items, IsShown room item) :
      IsShown (room + 1) (.list items)
  | emptyRecord {room : Nat} : IsShown room (.record [])
  | record {room : Nat} {fields : List (String × Datum)}
      (h : ∀ field ∈ fields, IsShown room field.2) : IsShown (room + 1) (.record fields)

/-- What keeps a value from being shown. -/
def obstacles : List Fault :=
  [.integerTooLong, .nestedTooDeep]

theorem length_toDigits_le_maxDigits_iff {n : Nat} :
    (Nat.toDigits 10 n).length ≤ Decimal.maxDigits ↔ n < 10 ^ Decimal.maxDigits :=
  Nat.length_toDigits_le_iff (by decide) (by decide)

theorem display_whole_of_long {value : Int}
    (h : Decimal.maxDigits < (Nat.toDigits 10 value.natAbs).length) (room : Nat) :
    (whole value).display room = .error .integerTooLong :=
  if_pos h

variable {room : Nat} {value : Datum}

theorem exists_quotedItems {items : List Datum}
    (h : ∀ item ∈ items, ∃ shown, item.quoted room = .ok shown) :
    ∃ shown, quotedItems (room + 1) items = .ok shown := by
  induction items with
  | nil => exact ⟨[], rfl⟩
  | cons item items ih =>
      obtain ⟨shown, hshown⟩ := h item List.mem_cons_self
      obtain ⟨rest, hrest⟩ := ih fun other hother => h other (List.mem_cons_of_mem item hother)
      refine ⟨shown :: rest, ?_⟩
      rw [quotedItems, hshown, hrest]
      rfl

theorem exists_quotedFields {fields : List (String × Datum)}
    (h : ∀ field ∈ fields, ∃ shown, field.2.quoted room = .ok shown) :
    ∃ shown, quotedFields (room + 1) fields = .ok shown := by
  induction fields with
  | nil => exact ⟨[], rfl⟩
  | cons field fields ih =>
      obtain ⟨shown, hshown⟩ := h field List.mem_cons_self
      obtain ⟨rest, hrest⟩ := ih fun other hother => h other (List.mem_cons_of_mem field hother)
      refine ⟨(Text.quoted field.1 ++ ": " ++ shown) :: rest, ?_⟩
      rw [quotedFields, hshown, hrest]
      rfl

theorem IsShown.exists_quoted (h : IsShown room value) :
    ∃ shown, value.quoted room = .ok shown := by
  induction h with
  | null => exact ⟨_, rfl⟩
  | flag value =>
      cases value with
      | false => exact ⟨_, rfl⟩
      | true => exact ⟨_, rfl⟩
  | whole h => exact ⟨_, if_neg (Nat.not_lt.mpr (length_toDigits_le_maxDigits_iff.mpr h))⟩
  | decimal negative digits places => exact ⟨_, rfl⟩
  | text value => exact ⟨_, rfl⟩
  | emptyList => exact ⟨_, rfl⟩
  | list _ ih =>
      obtain ⟨shown, hshown⟩ := exists_quotedItems ih
      refine ⟨"[" ++ ", ".intercalate shown ++ "]", ?_⟩
      rw [quoted, hshown]
      rfl
  | emptyRecord => exact ⟨_, rfl⟩
  | record _ ih =>
      obtain ⟨shown, hshown⟩ := exists_quotedFields ih
      refine ⟨"\x7b" ++ ", ".intercalate shown ++ "\x7d", ?_⟩
      rw [quoted, hshown]
      rfl

-- A value that is not shown meets an obstacle, at the first item that is not shown if it has items.
mutual

theorem isShown_or_exists_fault : ∀ (room : Nat) (value : Datum),
    IsShown room value ∨ ∃ fault ∈ obstacles, value.quoted room = .error fault
  | _, .null => .inl .null
  | _, .flag value => .inl (.flag value)
  | room, .whole value => by
      rcases Nat.lt_or_ge Decimal.maxDigits (Nat.toDigits 10 value.natAbs).length with h | h
      · exact .inr ⟨.integerTooLong, by decide, display_whole_of_long h room⟩
      · exact .inl (.whole (length_toDigits_le_maxDigits_iff.mp h))
  | _, .decimal negative digits places => .inl (.decimal negative digits places)
  | _, .text value => .inl (.text value)
  | 0, .list [] => .inl .emptyList
  | 0, .list (_ :: _) => .inr ⟨.nestedTooDeep, by decide, rfl⟩
  | room + 1, .list items => by
      rcases items_isShown_or_exists_fault room items with h | ⟨fault, hfault, h⟩
      · exact .inl (.list h)
      · refine .inr ⟨fault, hfault, ?_⟩
        rw [quoted, h]
        rfl
  | 0, .record [] => .inl .emptyRecord
  | 0, .record (_ :: _) => .inr ⟨.nestedTooDeep, by decide, rfl⟩
  | room + 1, .record fields => by
      rcases fields_isShown_or_exists_fault room fields with h | ⟨fault, hfault, h⟩
      · exact .inl (.record h)
      · refine .inr ⟨fault, hfault, ?_⟩
        rw [quoted, h]
        rfl

theorem items_isShown_or_exists_fault : ∀ (room : Nat) (items : List Datum),
    (∀ item ∈ items, IsShown room item) ∨
      ∃ fault ∈ obstacles, quotedItems (room + 1) items = .error fault
  | _, [] => .inl (List.forall_mem_nil _)
  | room, item :: items => by
      rcases isShown_or_exists_fault room item with hitem | ⟨fault, hfault, h⟩
      · rcases items_isShown_or_exists_fault room items with hitems | ⟨fault, hfault, h⟩
        · exact .inl (List.forall_mem_cons.mpr ⟨hitem, hitems⟩)
        · obtain ⟨shown, hshown⟩ := hitem.exists_quoted
          refine .inr ⟨fault, hfault, ?_⟩
          rw [quotedItems, hshown, h]
          rfl
      · refine .inr ⟨fault, hfault, ?_⟩
        rw [quotedItems, h]
        rfl

theorem fields_isShown_or_exists_fault : ∀ (room : Nat) (fields : List (String × Datum)),
    (∀ field ∈ fields, IsShown room field.2) ∨
      ∃ fault ∈ obstacles, quotedFields (room + 1) fields = .error fault
  | _, [] => .inl (List.forall_mem_nil _)
  | room, (name, value) :: fields => by
      rcases isShown_or_exists_fault room value with hvalue | ⟨fault, hfault, h⟩
      · rcases fields_isShown_or_exists_fault room fields with hfields | ⟨fault, hfault, h⟩
        · exact .inl (List.forall_mem_cons.mpr ⟨hvalue, hfields⟩)
        · obtain ⟨shown, hshown⟩ := hvalue.exists_quoted
          refine .inr ⟨fault, hfault, ?_⟩
          rw [quotedFields, hshown, h]
          rfl
      · refine .inr ⟨fault, hfault, ?_⟩
        rw [quotedFields, h]
        rfl

end

theorem exists_quoted_of_display {shown : String} (h : value.display room = .ok shown) :
    ∃ quoted, value.quoted room = .ok quoted := by
  cases value with
  | text value => exact ⟨Text.quoted value, rfl⟩
  | _ => exact ⟨shown, h⟩

theorem IsShown.exists_display (h : IsShown room value) :
    ∃ shown, value.display room = .ok shown := by
  cases value with
  | text value => exact ⟨value, rfl⟩
  | _ => exact h.exists_quoted

/-- A value that can be shown has a plain form, and any other meets one of the obstacles. -/
theorem exists_display_iff : (∃ shown, value.display room = .ok shown) ↔ IsShown room value := by
  refine ⟨fun ⟨shown, h⟩ => ?_, IsShown.exists_display⟩
  obtain ⟨quoted, hquoted⟩ := exists_quoted_of_display h
  rcases isShown_or_exists_fault room value with hvalue | ⟨fault, -, hfault⟩
  · exact hvalue
  · rw [hquoted] at hfault
    cases hfault

theorem mem_obstacles_of_display {fault : Fault} (h : value.display room = .error fault) :
    fault ∈ obstacles := by
  rcases isShown_or_exists_fault room value with hvalue | ⟨other, hother, hfault⟩
  · obtain ⟨shown, hshown⟩ := hvalue.exists_display
    rw [hshown] at h
    cases h
  · cases value with
    | text value => cases h
    | _ =>
        obtain rfl := Except.error.inj (hfault.symm.trans h)
        exact hother

end CipherString.Datum
