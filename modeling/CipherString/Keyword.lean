import CipherString.Criterion
import CipherString.Distinct

/-!
The keywords of cipher strings: which criterion each stands for, the words that stand for another
keyword, and the words that are understood and match nothing. `DEFAULT` is no keyword: it means
something only at the head of an expression.
-/

namespace CipherString.Keyword

def high : List String :=
  ["aes_128_cbc", "aes_128_gcm", "aes_256_cbc", "aes_256_gcm", "chacha20_poly1305"]

def medium : List String :=
  ["rc4_128", "idea_cbc", "3des_ede_cbc"]

def low : List String :=
  ["des40_cbc", "des_cbc"]

/-- The suites of the oldest protocol version: no cipher that authenticates by itself, and the
function of the protocol. Suites on elliptic curves are counted in, although many implementations
offer them from the next version on only. -/
def sslv3 : Criterion :=
  .every
    ["ecdhe_ecdsa", "ecdhe_rsa", "ecdh_ecdsa", "ecdh_rsa", "dhe_rsa", "dhe_dss", "rsa",
      "dh_anon", "ecdh_anon", "dhe_psk", "rsa_psk", "psk", "srp_anon", "srp_rsa", "srp_dss"]
    ["aes_256_cbc", "3des_ede_cbc", "aes_128_cbc", "des_cbc", "rc4_128", Suite.nullCipher]
    ["sha", "md5"]
    [Suite.defaultPrf]

/-- What version 1.2 added: ciphers that authenticate by themselves, the longer hashes, and
functions of the suite's own. -/
def tlsv12 : Criterion :=
  .any [] ["chacha20_poly1305", "aes_256_gcm", "aes_128_gcm"] [Suite.aead, "sha256", "sha384"]
    ["sha256", "sha384"]

def table : List (String × Criterion) :=
  [
    ("ALL", .encrypting),
    ("COMPLEMENTOFALL", .cipher [Suite.nullCipher]),
    ("COMPLEMENTOFDEFAULT", .beyondDefaults),
    ("HIGH", .cipher high),
    ("MEDIUM", .cipher medium),
    ("LOW", .cipher low),
    ("eNULL", .cipher [Suite.nullCipher]),
    ("aNULL", .keyExchange ["dh_anon", "ecdh_anon"]),
    ("kRSA", .keyExchange ["rsa"]),
    ("aRSA", .keyExchange ["rsa", "dhe_rsa", "srp_rsa", "ecdhe_rsa"]),
    ("kDHr", .keyExchange ["dh_rsa"]),
    ("kDHd", .keyExchange ["dh_dss"]),
    ("kDH", .keyExchange ["dh_rsa", "dh_dss"]),
    ("kDHE", .keyExchange ["dhe_rsa", "dhe_dss", "dh_anon", "dhe_psk"]),
    ("DH", .keyExchange ["dh_rsa", "dh_dss", "dhe_rsa", "dhe_dss", "dh_anon", "dhe_psk"]),
    ("DHE", .keyExchange ["dhe_rsa", "dhe_dss", "dhe_psk"]),
    ("ADH", .keyExchange ["dh_anon"]),
    ("kEECDH", .keyExchange ["ecdhe_rsa", "ecdhe_ecdsa", "ecdh_anon"]),
    ("kECDHr", .keyExchange ["ecdh_rsa"]),
    ("kECDHe", .keyExchange ["ecdh_ecdsa"]),
    ("kECDH", .keyExchange ["ecdh_rsa", "ecdh_ecdsa"]),
    ("aECDH", .keyExchange ["ecdh_rsa", "ecdh_ecdsa"]),
    ("ECDH", .keyExchange ["ecdhe_rsa", "ecdhe_ecdsa", "ecdh_rsa", "ecdh_ecdsa", "ecdh_anon"]),
    ("ECDHE", .keyExchange ["ecdhe_rsa", "ecdhe_ecdsa"]),
    ("AECDH", .keyExchange ["ecdh_anon"]),
    ("aDSS", .keyExchange ["dhe_dss", "srp_dss"]),
    ("aDH", .keyExchange ["dh_rsa", "dh_dss"]),
    ("aECDSA", .keyExchange ["ecdhe_ecdsa"]),
    ("SSLv3", sslv3),
    ("TLSv1.0", .nothing),
    ("TLSv1.2", tlsv12),
    ("AES128", .cipher ["aes_128_cbc", "aes_128_gcm"]),
    ("AES256", .cipher ["aes_256_cbc", "aes_256_gcm"]),
    ("AES", .cipher ["aes_128_cbc", "aes_128_gcm", "aes_256_cbc", "aes_256_gcm"]),
    ("AESGCM", .cipher ["aes_128_gcm", "aes_256_gcm"]),
    ("CHACHA20", .cipher ["chacha20_poly1305"]),
    ("3DES", .cipher ["3des_ede_cbc"]),
    ("DES", .cipher ["des_cbc"]),
    ("RC4", .cipher ["rc4_128"]),
    ("IDEA", .cipher ["idea_cbc"]),
    ("MD5", .mac ["md5"]),
    ("SHA1", .mac ["sha"]),
    ("SHA256", .mac ["sha256"]),
    ("SHA384", .mac ["sha384"]),
    ("kPSK", .keyExchange ["psk"]),
    ("kDHEPSK", .keyExchange ["dhe_psk"]),
    ("kRSAPSK", .keyExchange ["rsa_psk"]),
    ("aPSK", .keyExchange ["psk", "dhe_psk", "rsa_psk"]),
    ("kSRP", .keyExchange ["srp", "srp_rsa", "srp_dss", "srp_anon"]),
    ("aSRP", .keyExchange ["srp_anon"])]

def aliases : List (String × String) :=
  [("NULL", "eNULL"), ("RSA", "kRSA"), ("kEDH", "kDHE"), ("EDH", "DHE"), ("kECDHE", "kEECDH"),
    ("EECDH", "ECDHE"), ("DSS", "aDSS"), ("ECDSA", "aECDSA"), ("TLSv1", "TLSv1.0"),
    ("SHA", "SHA1"), ("PSK", "kPSK"), ("SRP", "kSRP")]

/-- Words that are understood although no suite here has the property they name. -/
def unsupported : List String :=
  ["AESCCM", "AESCCM8", "CAMELLIA128", "CAMELLIA256", "CAMELLIA", "RC2", "SEED", "aGOST",
    "aGOST01", "kGOST", "GOST94", "GOST89MAC", "kECDHEPSK", "EXPORT", "EXP", "EXPORT40",
    "EXPORT56"]

/-- The criterion that a word stands for, if it is a known word. -/
def criterion? (word : String) : Option Criterion :=
  if word ∈ unsupported then some .nothing
  else table.lookup ((aliases.lookup word).getD word)

def known : List String :=
  Text.sorted
    (Distinct.ofList (table.map Prod.fst ++ aliases.map Prod.fst ++ unsupported)).toList

end CipherString.Keyword
