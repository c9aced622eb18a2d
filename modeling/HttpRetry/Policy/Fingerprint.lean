import HttpRetry.Number.Fingerprint
import HttpRetry.Policy.Basic

/-!
# Fingerprints of policies

Equal policies have equal fingerprints: those of their numbers, and a set of codes
is mixed without regard to order.
-/

namespace HttpRetry

namespace Policy

structure Fingerprint where
  codes : UInt64
  maxRetries : Int
  ceiling : Int
  multiplier : Int
deriving DecidableEq

def mixCode (code : Int) : UInt64 :=
  let h : UInt64 := UInt64.ofInt (Number.int code).fingerprint
  ((h ^^^ (89869747 : UInt64)) ^^^ (h <<< (16 : UInt64))) * (3644798167 : UInt64)

def fingerprint (p : Policy) : Fingerprint where
  codes := p.codes.foldl (fun mixed code => mixed ^^^ mixCode code)
    (UInt64.ofNat (p.codes.length + 1) * 1927868237)
  maxRetries := (Number.int p.maxRetries).fingerprint
  ceiling := p.ceiling.fingerprint
  multiplier := p.multiplier.fingerprint

end Policy

end HttpRetry
