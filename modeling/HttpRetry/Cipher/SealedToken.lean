import HttpRetry.Cipher.Aes
import HttpRetry.Cipher.Base64
import HttpRetry.Cipher.Sha256

/-!
# Sealed tokens

A sealed token is, in base 64, a version byte, eight bytes of time, a starting
block, encrypted blocks, and the code of all that under the signing half of the
key. The time is not looked at.
-/

namespace HttpRetry

structure SealingKey where
  signing : Bytes
  encryption : Bytes

/-- A key is 32 bytes in base 64: the signing half, then the encryption half. -/
def SealingKey.read (encoded : Bytes) : Option SealingKey :=
  match Base64.decode encoded with
  | some bytes =>
    if bytes.length = 32 then some ⟨bytes.take 16, bytes.drop 16⟩ else none
  | none => none

namespace SealedToken

def version : UInt8 := 0x80

def content? (key : SealingKey) (token : Bytes) : Option Bytes := do
  let bytes ← Base64.decode token
  guard (bytes.head? = some version ∧ 9 ≤ bytes.length)
  let signed := bytes.take (bytes.length - 32)
  let code := bytes.drop (bytes.length - 32)
  guard (Sha256.keyed key.signing signed = code)
  Aes.decrypt key.encryption ((signed.drop 9).take 16) (signed.drop 25)

end SealedToken

end HttpRetry
