import CipherString.Suite

namespace CipherString

structure RawSuite where
  keyExchange : Datum
  cipher : Datum
  mac : Datum
  prf : Datum := .text Suite.defaultPrf

namespace RawSuite

def attributes (s : RawSuite) : List Datum :=
  [s.keyExchange, s.cipher, s.mac, s.prf]

def ofSuite (s : Suite) : RawSuite :=
  ⟨.text s.keyExchange, .text s.cipher, .text s.mac, .text s.prf⟩

def ofAttributes? : List Datum → Option RawSuite
  | [keyExchange, cipher, mac] => some { keyExchange, cipher, mac }
  | [keyExchange, cipher, mac, prf] => some { keyExchange, cipher, mac, prf }
  | _ => none

def isNull (s : RawSuite) : Bool :=
  match s.cipher with
  | .text cipher => cipher == Suite.nullCipher
  | _ => false

def strength (s : RawSuite) : Except Fault Nat :=
  match s.cipher with
  | .text cipher => .ok ((Suite.keyBits.lookup cipher).getD 0)
  | other => if other.isKey then .ok 0 else .error (.notKey other.kind)

/-- The texts among values, the value at position `index` being the first; a value of another kind
is a fault. -/
def texts (index : Nat) : List Datum → Except Fault (List String)
  | [] => .ok []
  | .text s :: rest => (texts (index + 1) rest).map (s :: ·)
  | other :: _ => .error (.notJoinable index other.kind)

def label (s : RawSuite) : Except Fault String :=
  (texts 0 s.attributes).map "/".intercalate

def quoted (room : Nat) (s : RawSuite) : Except Fault String := do
  let keyExchange ← s.keyExchange.quoted room
  let cipher ← s.cipher.quoted room
  let mac ← s.mac.quoted room
  let prf ← s.prf.quoted room
  pure ("CipherSuite(key_exchange=" ++ keyExchange ++ ", cipher=" ++ cipher ++ ", mac=" ++ mac ++
    ", prf=" ++ prf ++ ")")

end RawSuite

end CipherString
