import CipherString.Datum
import CipherString.Fault

namespace CipherString

namespace Text

/-- Texts in the order of their code points. -/
def sorted (l : List String) : List String :=
  l.mergeSort fun s t => decide (s ≤ t)

theorem mem_sorted {s : String} {l : List String} : s ∈ sorted l ↔ s ∈ l :=
  List.mem_mergeSort

/-- Whether one list of texts comes before another or is equal to it: the first texts that differ
decide, and a list comes before any that continues it. -/
def precedes : List String → List String → Bool
  | [], _ => true
  | _ :: _, [] => false
  | s :: l, t :: m => if s = t then precedes l m else decide (s ≤ t)

end Text

structure Suite where
  keyExchange : String
  cipher : String
  mac : String
  prf : String
  deriving DecidableEq, Repr, Inhabited

namespace Suite

/-- The pseudo-random function of a suite that does not name one: that of the protocol. -/
def defaultPrf : String := "default_prf"

def nullCipher : String := "null"

/-- The authentication of a suite whose cipher authenticates by itself. -/
def aead : String := "aead"

def attributes (s : Suite) : List String :=
  [s.keyExchange, s.cipher, s.mac, s.prf]

def isNull (s : Suite) : Bool :=
  s.cipher == nullCipher

def label (s : Suite) : String :=
  "/".intercalate s.attributes

def precedes (s t : Suite) : Bool :=
  Text.precedes s.attributes t.attributes

/-- A suite from three or four attributes; without the fourth it has the function of the
protocol. -/
def ofAttributes : List String → Except Fault Suite
  | [keyExchange, cipher, mac] => .ok ⟨keyExchange, cipher, mac, defaultPrf⟩
  | [keyExchange, cipher, mac, prf] => .ok ⟨keyExchange, cipher, mac, prf⟩
  | attributes => .error (.suiteArity attributes.length)

/-- A suite from a value of any kind. A list gives the plain forms of its items, if they are of the
right number, and a text its characters; the fields of a record have names and no positions, so
there is no first one. -/
def ofDatum (room : Nat) : Datum → Except Fault Suite
  | .list items =>
    if items.length = 3 ∨ items.length = 4 then items.mapM (Datum.display room) >>= ofAttributes
    else .error (.suiteArity items.length)
  | .text s => ofAttributes (s.toList.map String.singleton)
  | .record fields =>
    if fields.length = 3 ∨ fields.length = 4 then .error (.missingField "0")
    else .error (.suiteArity fields.length)
  | other => .error (.noParts other.kind)

/-- The effective key size in bits of each known cipher. Triple DES counts as 112 bits, by the
meeting-in-the-middle attack, and not as the 168 of its key. -/
def keyBits : List (String × Nat) :=
  [(nullCipher, 0), ("rc4_128", 128), ("idea_cbc", 128), ("des40_cbc", 40), ("des_cbc", 56),
    ("3des_ede_cbc", 112), ("aes_128_cbc", 128), ("aes_256_cbc", 256), ("aes_128_gcm", 128),
    ("aes_256_gcm", 256), ("chacha20_poly1305", 256)]

/-- The effective key size of a suite, zero for a cipher that is not known. -/
def strength (s : Suite) : Nat :=
  (keyBits.lookup s.cipher).getD 0

end Suite

end CipherString
