import CipherString.Catalog

namespace CipherString.Catalog

def builtinEntries : List (String × Suite) :=
  [
    -- AES with 256 bits, version 1.2
    ("ECDHE-ECDSA-AES256-GCM-SHA384", ⟨"ecdhe_ecdsa", "aes_256_gcm", "aead", "sha384"⟩),
    ("ECDHE-RSA-AES256-GCM-SHA384", ⟨"ecdhe_rsa", "aes_256_gcm", "aead", "sha384"⟩),
    ("ECDHE-ECDSA-AES256-SHA384", ⟨"ecdhe_ecdsa", "aes_256_cbc", "sha384", "sha384"⟩),
    ("ECDHE-RSA-AES256-SHA384", ⟨"ecdhe_rsa", "aes_256_cbc", "sha384", "sha384"⟩),
    ("ECDH-ECDSA-AES256-GCM-SHA384", ⟨"ecdh_ecdsa", "aes_256_gcm", "aead", "sha384"⟩),
    ("ECDH-RSA-AES256-GCM-SHA384", ⟨"ecdh_rsa", "aes_256_gcm", "aead", "sha384"⟩),
    ("ECDH-ECDSA-AES256-SHA384", ⟨"ecdh_ecdsa", "aes_256_cbc", "sha384", "sha384"⟩),
    ("ECDH-RSA-AES256-SHA384", ⟨"ecdh_rsa", "aes_256_cbc", "sha384", "sha384"⟩),
    ("ECDHE-ECDSA-CHACHA20-POLY1305", ⟨"ecdhe_ecdsa", "chacha20_poly1305", "aead", "sha256"⟩),
    ("ECDHE-RSA-CHACHA20-POLY1305", ⟨"ecdhe_rsa", "chacha20_poly1305", "aead", "sha256"⟩),
    ("DHE-RSA-CHACHA20-POLY1305", ⟨"dhe_rsa", "chacha20_poly1305", "aead", "sha256"⟩),
    ("DHE-RSA-AES256-GCM-SHA384", ⟨"dhe_rsa", "aes_256_gcm", "aead", "sha384"⟩),
    ("DHE-DSS-AES256-GCM-SHA384", ⟨"dhe_dss", "aes_256_gcm", "aead", "sha384"⟩),
    ("DHE-RSA-AES256-SHA256", ⟨"dhe_rsa", "aes_256_cbc", "sha256", Suite.defaultPrf⟩),
    ("DHE-DSS-AES256-SHA256", ⟨"dhe_dss", "aes_256_cbc", "sha256", Suite.defaultPrf⟩),
    ("AES256-GCM-SHA384", ⟨"rsa", "aes_256_gcm", "aead", "sha384"⟩),
    ("AES256-SHA256", ⟨"rsa", "aes_256_cbc", "sha256", Suite.defaultPrf⟩),
    -- AES with 128 bits, version 1.2
    ("ECDHE-ECDSA-AES128-GCM-SHA256", ⟨"ecdhe_ecdsa", "aes_128_gcm", "aead", "sha256"⟩),
    ("ECDHE-RSA-AES128-GCM-SHA256", ⟨"ecdhe_rsa", "aes_128_gcm", "aead", "sha256"⟩),
    ("ECDHE-ECDSA-AES128-SHA256", ⟨"ecdhe_ecdsa", "aes_128_cbc", "sha256", "sha256"⟩),
    ("ECDHE-RSA-AES128-SHA256", ⟨"ecdhe_rsa", "aes_128_cbc", "sha256", "sha256"⟩),
    ("ECDH-ECDSA-AES128-GCM-SHA256", ⟨"ecdh_ecdsa", "aes_128_gcm", "aead", "sha256"⟩),
    ("ECDH-RSA-AES128-GCM-SHA256", ⟨"ecdh_rsa", "aes_128_gcm", "aead", "sha256"⟩),
    ("ECDH-ECDSA-AES128-SHA256", ⟨"ecdh_ecdsa", "aes_128_cbc", "sha256", "sha256"⟩),
    ("ECDH-RSA-AES128-SHA256", ⟨"ecdh_rsa", "aes_128_cbc", "sha256", "sha256"⟩),
    ("DHE-RSA-AES128-GCM-SHA256", ⟨"dhe_rsa", "aes_128_gcm", "aead", "sha256"⟩),
    ("DHE-DSS-AES128-GCM-SHA256", ⟨"dhe_dss", "aes_128_gcm", "aead", "sha256"⟩),
    ("DHE-RSA-AES128-SHA256", ⟨"dhe_rsa", "aes_128_cbc", "sha256", Suite.defaultPrf⟩),
    ("DHE-DSS-AES128-SHA256", ⟨"dhe_dss", "aes_128_cbc", "sha256", Suite.defaultPrf⟩),
    ("AES128-GCM-SHA256", ⟨"rsa", "aes_128_gcm", "aead", "sha256"⟩),
    ("AES128-SHA256", ⟨"rsa", "aes_128_cbc", "sha256", Suite.defaultPrf⟩),
    -- Older versions
    ("ECDHE-ECDSA-AES256-SHA", ⟨"ecdhe_ecdsa", "aes_256_cbc", "sha", Suite.defaultPrf⟩),
    ("ECDHE-RSA-AES256-SHA", ⟨"ecdhe_rsa", "aes_256_cbc", "sha", Suite.defaultPrf⟩),
    ("DHE-RSA-AES256-SHA", ⟨"dhe_rsa", "aes_256_cbc", "sha", Suite.defaultPrf⟩),
    ("DHE-DSS-AES256-SHA", ⟨"dhe_dss", "aes_256_cbc", "sha", Suite.defaultPrf⟩),
    ("ECDH-ECDSA-AES256-SHA", ⟨"ecdh_ecdsa", "aes_256_cbc", "sha", Suite.defaultPrf⟩),
    ("ECDH-RSA-AES256-SHA", ⟨"ecdh_rsa", "aes_256_cbc", "sha", Suite.defaultPrf⟩),
    ("AES256-SHA", ⟨"rsa", "aes_256_cbc", "sha", Suite.defaultPrf⟩),
    ("ECDHE-ECDSA-DES-CBC3-SHA", ⟨"ecdhe_ecdsa", "3des_ede_cbc", "sha", Suite.defaultPrf⟩),
    ("ECDHE-RSA-DES-CBC3-SHA", ⟨"ecdhe_rsa", "3des_ede_cbc", "sha", Suite.defaultPrf⟩),
    ("EDH-RSA-DES-CBC3-SHA", ⟨"dhe_rsa", "3des_ede_cbc", "sha", Suite.defaultPrf⟩),
    ("EDH-DSS-DES-CBC3-SHA", ⟨"dhe_dss", "3des_ede_cbc", "sha", Suite.defaultPrf⟩),
    ("ECDH-ECDSA-DES-CBC3-SHA", ⟨"ecdh_ecdsa", "3des_ede_cbc", "sha", Suite.defaultPrf⟩),
    ("ECDH-RSA-DES-CBC3-SHA", ⟨"ecdh_rsa", "3des_ede_cbc", "sha", Suite.defaultPrf⟩),
    ("DES-CBC3-SHA", ⟨"rsa", "3des_ede_cbc", "sha", Suite.defaultPrf⟩),
    ("ECDHE-ECDSA-AES128-SHA", ⟨"ecdhe_ecdsa", "aes_128_cbc", "sha", Suite.defaultPrf⟩),
    ("ECDHE-RSA-AES128-SHA", ⟨"ecdhe_rsa", "aes_128_cbc", "sha", Suite.defaultPrf⟩),
    ("DHE-RSA-AES128-SHA", ⟨"dhe_rsa", "aes_128_cbc", "sha", Suite.defaultPrf⟩),
    ("DHE-DSS-AES128-SHA", ⟨"dhe_dss", "aes_128_cbc", "sha", Suite.defaultPrf⟩),
    ("ECDH-ECDSA-AES128-SHA", ⟨"ecdh_ecdsa", "aes_128_cbc", "sha", Suite.defaultPrf⟩),
    ("ECDH-RSA-AES128-SHA", ⟨"ecdh_rsa", "aes_128_cbc", "sha", Suite.defaultPrf⟩),
    ("AES128-SHA", ⟨"rsa", "aes_128_cbc", "sha", Suite.defaultPrf⟩),
    ("IDEA-CBC-SHA", ⟨"rsa", "idea_cbc", "sha", Suite.defaultPrf⟩),
    ("ECDHE-ECDSA-RC4-SHA", ⟨"ecdhe_ecdsa", "rc4_128", "sha", Suite.defaultPrf⟩),
    ("ECDHE-RSA-RC4-SHA", ⟨"ecdhe_rsa", "rc4_128", "sha", Suite.defaultPrf⟩),
    ("ECDH-ECDSA-RC4-SHA", ⟨"ecdh_ecdsa", "rc4_128", "sha", Suite.defaultPrf⟩),
    ("ECDH-RSA-RC4-SHA", ⟨"ecdh_rsa", "rc4_128", "sha", Suite.defaultPrf⟩),
    ("RC4-SHA", ⟨"rsa", "rc4_128", "sha", Suite.defaultPrf⟩),
    ("RC4-MD5", ⟨"rsa", "rc4_128", "md5", Suite.defaultPrf⟩),
    ("EDH-RSA-DES-CBC-SHA", ⟨"dhe_rsa", "des_cbc", "sha", Suite.defaultPrf⟩),
    ("EDH-DSS-DES-CBC-SHA", ⟨"dhe_dss", "des_cbc", "sha", Suite.defaultPrf⟩),
    ("DES-CBC-SHA", ⟨"rsa", "des_cbc", "sha", Suite.defaultPrf⟩),
    -- Without authentication
    ("ADH-AES256-GCM-SHA384", ⟨"dh_anon", "aes_256_gcm", "aead", "sha384"⟩),
    ("ADH-AES256-SHA256", ⟨"dh_anon", "aes_256_cbc", "sha256", Suite.defaultPrf⟩),
    ("AECDH-AES256-SHA", ⟨"ecdh_anon", "aes_256_cbc", "sha", Suite.defaultPrf⟩),
    ("ADH-AES256-SHA", ⟨"dh_anon", "aes_256_cbc", "sha", Suite.defaultPrf⟩),
    ("ADH-AES128-GCM-SHA256", ⟨"dh_anon", "aes_128_gcm", "aead", "sha256"⟩),
    ("ADH-AES128-SHA256", ⟨"dh_anon", "aes_128_cbc", "sha256", Suite.defaultPrf⟩),
    ("AECDH-AES128-SHA", ⟨"ecdh_anon", "aes_128_cbc", "sha", Suite.defaultPrf⟩),
    ("ADH-AES128-SHA", ⟨"dh_anon", "aes_128_cbc", "sha", Suite.defaultPrf⟩),
    ("AECDH-DES-CBC3-SHA", ⟨"ecdh_anon", "3des_ede_cbc", "sha", Suite.defaultPrf⟩),
    ("ADH-DES-CBC3-SHA", ⟨"dh_anon", "3des_ede_cbc", "sha", Suite.defaultPrf⟩),
    ("AECDH-RC4-SHA", ⟨"ecdh_anon", "rc4_128", "sha", Suite.defaultPrf⟩),
    ("ADH-RC4-MD5", ⟨"dh_anon", "rc4_128", "md5", Suite.defaultPrf⟩),
    ("ADH-DES-CBC-SHA", ⟨"dh_anon", "des_cbc", "sha", Suite.defaultPrf⟩),
    -- Pre-shared keys
    ("PSK-AES256-GCM-SHA384", ⟨"psk", "aes_256_gcm", "aead", "sha384"⟩),
    ("PSK-AES256-CBC-SHA384", ⟨"psk", "aes_256_cbc", "sha384", "sha384"⟩),
    ("PSK-AES128-GCM-SHA256", ⟨"psk", "aes_128_gcm", "aead", "sha256"⟩),
    ("PSK-AES128-CBC-SHA256", ⟨"psk", "aes_128_cbc", "sha256", "sha256"⟩),
    ("PSK-AES256-CBC-SHA", ⟨"psk", "aes_256_cbc", "sha", Suite.defaultPrf⟩),
    ("PSK-AES128-CBC-SHA", ⟨"psk", "aes_128_cbc", "sha", Suite.defaultPrf⟩),
    ("PSK-3DES-EDE-CBC-SHA", ⟨"psk", "3des_ede_cbc", "sha", Suite.defaultPrf⟩),
    ("PSK-RC4-SHA", ⟨"psk", "rc4_128", "sha", Suite.defaultPrf⟩),
    ("DHE-PSK-AES256-CBC-SHA", ⟨"dhe_psk", "aes_256_cbc", "sha", Suite.defaultPrf⟩),
    ("DHE-PSK-AES128-CBC-SHA", ⟨"dhe_psk", "aes_128_cbc", "sha", Suite.defaultPrf⟩),
    ("DHE-PSK-3DES-EDE-CBC-SHA", ⟨"dhe_psk", "3des_ede_cbc", "sha", Suite.defaultPrf⟩),
    ("DHE-PSK-RC4-SHA", ⟨"dhe_psk", "rc4_128", "sha", Suite.defaultPrf⟩),
    ("RSA-PSK-AES256-CBC-SHA", ⟨"rsa_psk", "aes_256_cbc", "sha", Suite.defaultPrf⟩),
    ("RSA-PSK-AES128-CBC-SHA", ⟨"rsa_psk", "aes_128_cbc", "sha", Suite.defaultPrf⟩),
    ("RSA-PSK-3DES-EDE-CBC-SHA", ⟨"rsa_psk", "3des_ede_cbc", "sha", Suite.defaultPrf⟩),
    ("RSA-PSK-RC4-SHA", ⟨"rsa_psk", "rc4_128", "sha", Suite.defaultPrf⟩),
    -- Passwords
    ("SRP-AES-256-CBC-SHA", ⟨"srp_anon", "aes_256_cbc", "sha", Suite.defaultPrf⟩),
    ("SRP-RSA-AES-256-CBC-SHA", ⟨"srp_rsa", "aes_256_cbc", "sha", Suite.defaultPrf⟩),
    ("SRP-DSS-AES-256-CBC-SHA", ⟨"srp_dss", "aes_256_cbc", "sha", Suite.defaultPrf⟩),
    ("SRP-AES-128-CBC-SHA", ⟨"srp_anon", "aes_128_cbc", "sha", Suite.defaultPrf⟩),
    ("SRP-RSA-AES-128-CBC-SHA", ⟨"srp_rsa", "aes_128_cbc", "sha", Suite.defaultPrf⟩),
    ("SRP-DSS-AES-128-CBC-SHA", ⟨"srp_dss", "aes_128_cbc", "sha", Suite.defaultPrf⟩),
    ("SRP-3DES-EDE-CBC-SHA", ⟨"srp_anon", "3des_ede_cbc", "sha", Suite.defaultPrf⟩),
    ("SRP-RSA-3DES-EDE-CBC-SHA", ⟨"srp_rsa", "3des_ede_cbc", "sha", Suite.defaultPrf⟩),
    ("SRP-DSS-3DES-EDE-CBC-SHA", ⟨"srp_dss", "3des_ede_cbc", "sha", Suite.defaultPrf⟩),
    -- Without encryption
    ("ECDHE-ECDSA-NULL-SHA", ⟨"ecdhe_ecdsa", "null", "sha", Suite.defaultPrf⟩),
    ("ECDHE-RSA-NULL-SHA", ⟨"ecdhe_rsa", "null", "sha", Suite.defaultPrf⟩),
    ("ECDH-ECDSA-NULL-SHA", ⟨"ecdh_ecdsa", "null", "sha", Suite.defaultPrf⟩),
    ("ECDH-RSA-NULL-SHA", ⟨"ecdh_rsa", "null", "sha", Suite.defaultPrf⟩),
    ("AECDH-NULL-SHA", ⟨"ecdh_anon", "null", "sha", Suite.defaultPrf⟩),
    ("NULL-SHA256", ⟨"rsa", "null", "sha256", Suite.defaultPrf⟩),
    ("NULL-SHA", ⟨"rsa", "null", "sha", Suite.defaultPrf⟩),
    ("NULL-MD5", ⟨"rsa", "null", "md5", Suite.defaultPrf⟩),
    ("PSK-NULL-SHA384", ⟨"psk", "null", "sha384", "sha384"⟩),
    ("PSK-NULL-SHA256", ⟨"psk", "null", "sha256", "sha256"⟩),
    ("PSK-NULL-SHA", ⟨"psk", "null", "sha", Suite.defaultPrf⟩)]

/-- Key exchanges that are authenticated by a certificate and offered by default. -/
def defaultKeyExchanges : List String :=
  ["ecdhe_ecdsa", "ecdhe_rsa", "ecdh_ecdsa", "ecdh_rsa", "dhe_rsa", "dhe_dss", "rsa"]

def defaultCiphers : List String :=
  ["aes_128_cbc", "aes_128_gcm", "aes_256_cbc", "aes_256_gcm", "chacha20_poly1305"]

def isDefault (s : Suite) : Bool :=
  defaultKeyExchanges.contains s.keyExchange && defaultCiphers.contains s.cipher

def builtinNames : NameTable :=
  NameTable.ofList builtinEntries

def builtin : Catalog :=
  let suites := builtinNames.entries.map Prod.snd
  ofLists suites (suites.filter isDefault) builtinNames

end CipherString.Catalog
