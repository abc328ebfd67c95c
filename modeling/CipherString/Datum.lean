import CipherString.Fault

namespace CipherString

/-- A value from outside, of any kind. A floating-point number stands as the decimal number it is
shown as, `digits / 10 ^ places` with its sign kept apart; the fields of a record are in the order
they were given. -/
inductive Datum where
  | null
  | flag (value : Bool)
  | whole (value : Int)
  | decimal (negative : Bool) (digits places : Nat)
  | text (value : String)
  | list (items : List Datum)
  | record (fields : List (String × Datum))
  deriving Repr, Inhabited

namespace Datum

def kind : Datum → String
  | null => "NoneType"
  | flag _ => "bool"
  | whole _ => "int"
  | decimal .. => "float"
  | text _ => "str"
  | list _ => "list"
  | record _ => "dict"

def isTrue : Datum → Bool
  | null => false
  | flag value => value
  | whole value => value != 0
  | decimal _ digits _ => digits != 0
  | text value => value != ""
  | list items => !items.isEmpty
  | record fields => !fields.isEmpty

def isKey : Datum → Bool
  | list _ => false
  | record _ => false
  | _ => true

mutual

/-- The form in which messages show a value, where there is room for so many lists and records around
one another. A value that lies deeper has none, nor has an integer of too many digits; what is met
first is the fault. -/
def quoted : Nat → Datum → Except Fault String
  | _, null => .ok "None"
  | _, flag true => .ok "True"
  | _, flag false => .ok "False"
  | _, whole value =>
    if Decimal.maxDigits < (Nat.toDigits 10 value.natAbs).length then .error .integerTooLong
    else .ok (toString value)
  | _, decimal negative digits places => .ok (Decimal.write negative digits places)
  | _, text value => .ok (Text.quoted value)
  | room, list items => do
    let shown ← quotedItems room items
    pure ("[" ++ ", ".intercalate shown ++ "]")
  | room, record fields => do
    let shown ← quotedFields room fields
    pure ("\x7b" ++ ", ".intercalate shown ++ "\x7d")

def quotedItems : Nat → List Datum → Except Fault (List String)
  | _, [] => .ok []
  | 0, _ :: _ => .error .nestedTooDeep
  | room + 1, item :: items => do
    let shown ← item.quoted room
    let rest ← quotedItems (room + 1) items
    pure (shown :: rest)

def quotedFields : Nat → List (String × Datum) → Except Fault (List String)
  | _, [] => .ok []
  | 0, _ :: _ => .error .nestedTooDeep
  | room + 1, (name, value) :: fields => do
    let shown ← value.quoted room
    let rest ← quotedFields (room + 1) fields
    pure ((Text.quoted name ++ ": " ++ shown) :: rest)

end

/-- The plain form of a value: a text as it is, everything else quoted. -/
def display (room : Nat) : Datum → Except Fault String
  | text value => .ok value
  | other => other.quoted room

end Datum

end CipherString
