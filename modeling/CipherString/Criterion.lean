import CipherString.Suite

namespace CipherString

inductive Criterion where
  | encrypting
  /-- The cipher encrypts and the suite is not among the defaults. -/
  | beyondDefaults
  | keyExchange (among : List String)
  | cipher (among : List String)
  | mac (among : List String)
  /-- All four attributes are among those given. -/
  | every (keyExchanges ciphers macs prfs : List String)
  /-- At least one of the four attributes is among those given. -/
  | any (keyExchanges ciphers macs prfs : List String)
  | nothing
  deriving DecidableEq, Repr

/-- Whether a suite meets a criterion, in a catalog with the given default suites. -/
def Criterion.holds (defaults : List Suite) : Criterion → Suite → Bool
  | .encrypting, s => !s.isNull
  | .beyondDefaults, s => !s.isNull && !defaults.contains s
  | .keyExchange among, s => among.contains s.keyExchange
  | .cipher among, s => among.contains s.cipher
  | .mac among, s => among.contains s.mac
  | .every keyExchanges ciphers macs prfs, s =>
    keyExchanges.contains s.keyExchange && ciphers.contains s.cipher && macs.contains s.mac &&
      prfs.contains s.prf
  | .any keyExchanges ciphers macs prfs, s =>
    keyExchanges.contains s.keyExchange || ciphers.contains s.cipher || macs.contains s.mac ||
      prfs.contains s.prf
  | .nothing, _ => false

end CipherString
