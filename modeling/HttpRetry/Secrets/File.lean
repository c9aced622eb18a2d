import HttpRetry.Cipher.SealedToken
import HttpRetry.Path
import HttpRetry.Value.Pairs

/-!
# Secrets files

A secrets file is a JSON text, sealed if there is a key for it. Its value is gone
through as pairs of names and secrets.
-/

namespace HttpRetry.Secrets

def keyBytes (key : Value) : Except Fault Bytes :=
  match key with
  | .text s => encodeText s
  | v => .error (.noAttribute v.typeName "encode")

def openSealed (path : String) (key : Value) (content : Bytes) : Except Fault Bytes := do
  match SealingKey.read (← keyBytes key) with
  | none => .error .badEncryptionKey
  | some key =>
    match SealedToken.content? key content with
    | none => .error (.undecryptable path)
    | some bytes => .ok bytes

/-- The value that a content holds. A key that counts as false is none. -/
def readContent (path : String) (key : Value) (content : Bytes) : Except Fault Value := do
  let plain ← if key.isTrue then openSealed path key content else .ok content
  match Utf8.decodeText plain with
  | .error problem => .error (.utf8 problem)
  | .ok text => (Json.read text).mapError .json

def readNode (path : String) (key : Value) : FileNode → Except Fault Value
  | .directory => .error (.isDirectory path)
  | .regular content => readContent path key content

end HttpRetry.Secrets
