import HttpRetry.Fault.Family
import HttpRetry.Proofs.Secrets.Contents

/-!
# Reading the secrets file again

A manager gets over a file that is missing, that holds a mapping, or that is sealed by
another key. Any other file is reported by a fault that is not about credentials.
-/

namespace HttpRetry

namespace Path

variable {s : Surroundings} {path : String} {fault : Fault}

theorem follow_eq_error {place : Place} {steps : List String}
    (h : follow s path place steps = .error fault) : fault = .nameTooLong path := by
  induction steps generalizing place with
  | nil => cases h
  | cons step rest ih =>
    unfold follow at h
    split at h
    · cases h
    · split at h
      · exact ih h
      · split at h
        · cases h
          rfl
        · split at h
          · exact ih h
          · cases h

theorem nodeAt_eq_error (h : nodeAt s path = .error fault) : fault = .nameTooLong path := by
  cases place : placeAt s path with
  | ok => simp [nodeAt, place, Except.map] at h
  | error reason =>
    simp only [nodeAt, place, Except.map, Except.error.injEq] at h
    subst h
    simp only [placeAt] at place
    split at place
    · cases place
    · split at place
      · cases place
        rfl
      · exact follow_eq_error place

end Path

namespace Value

theorem isAboutCredentials_pairAt {index : Nat} {item : Value} {fault : Fault}
    (h : pairAt index item = .error fault) : fault.isAboutCredentials = false := by
  unfold pairAt at h
  split at h
  · cases h
    rfl
  · split at h
    · cases h
    · cases h
      rfl
  · cases h
    rfl

theorem isAboutCredentials_pairsFrom {index : Nat} {items : List Value} {fault : Fault}
    (h : (pairsFrom index items).fault = some fault) : fault.isAboutCredentials = false := by
  induction items generalizing index with
  | nil => cases h
  | cons item rest ih =>
    unfold pairsFrom at h
    split at h
    · rename_i defect
      cases h
      exact isAboutCredentials_pairAt defect
    · exact ih h

theorem isAboutCredentials_pairing {v : Value} {fault : Fault} (h : v.pairing.fault = some fault) :
    fault.isAboutCredentials = false := by
  unfold pairing at h
  split at h
  · cases h
  · split at h
    · exact isAboutCredentials_pairsFrom h
    · cases h
      rfl

end Value

namespace Secrets

def IsMapping (plain : Bytes) : Prop :=
  ∃ text v, Utf8.decodeText plain = .ok text ∧ Json.read text = .ok v ∧ v.pairing.fault = none

/-- A content that holds a mapping. Under a key, the key has the right form and the content
holds a mapping if it is sealed by the key. -/
def HoldsMapping (key : Value) (content : Bytes) : Prop :=
  if key.isTrue then
    ∃ encoded halves, keyBytes key = .ok encoded ∧ SealingKey.read encoded = some halves ∧
      ∀ plain, SealedToken.content? halves content = some plain → IsMapping plain
  else IsMapping content

def Readable (s : Surroundings) (key : Value) : Option String → Prop
  | none => True
  | some path =>
    match Path.nodeAt s path with
    | .ok none => True
    | .ok (some (.regular content)) => HoldsMapping key content
    | .ok (some .directory) | .error _ => False

inductive Reread (readable : Prop) : Except Fault Unit → Prop
  | done (h : readable) : Reread readable (.ok ())
  | refused {fault : Fault} (h : readable) (about : fault.isAboutCredentials = true) :
      Reread readable (.error fault)
  | failed {fault : Fault} (h : ¬readable) (about : fault.isAboutCredentials = false) :
      Reread readable (.error fault)

/-! ## Contents -/

open Value (Pairing)

variable {path : String} {key : Value} {content : Bytes}

theorem pairing_reread (v : Value) : Reread (v.pairing.fault = none) v.pairing.result := by
  unfold Pairing.result
  split
  · rename_i fault defect
    exact .failed (by simp [defect]) (Value.isAboutCredentials_pairing defect)
  · rename_i sound
    exact .done sound

def readPlain (plain : Bytes) : Except Fault Value :=
  match Utf8.decodeText plain with
  | .error problem => .error (.utf8 problem)
  | .ok text => (Json.read text).mapError .json

theorem readPlain_reread (plain : Bytes) :
    Reread (IsMapping plain) (Pairing.ofRead (readPlain plain)).result := by
  cases decoded : Utf8.decodeText plain with
  | error problem =>
    have read_eq : readPlain plain = .error (.utf8 problem) := by simp only [readPlain, decoded]
    rw [read_eq]
    exact .failed (by simp [IsMapping, decoded]) rfl
  | ok text =>
    cases read : Json.read text with
    | error problem =>
      have read_eq : readPlain plain = .error (.json problem) := by
        simp only [readPlain, decoded, read]
        rfl
      rw [read_eq]
      exact .failed (by simp [IsMapping, decoded, read]) rfl
    | ok v =>
      have read_eq : readPlain plain = .ok v := by
        simp only [readPlain, decoded, read]
        rfl
      have mapping_iff : IsMapping plain ↔ v.pairing.fault = none := by
        simp [IsMapping, decoded, read]
      rw [read_eq, mapping_iff]
      exact pairing_reread v

theorem readContent_of_bare (bare : ¬key.isTrue = true) :
    readContent path key content = readPlain content := by
  simp only [readContent, if_neg bare]
  rfl

theorem readContent_of_sealed (sealed : key.isTrue = true) :
    readContent path key content = openSealed path key content >>= readPlain := by
  simp only [readContent, if_pos sealed]
  rfl

theorem isAboutCredentials_keyBytes {fault : Fault} (h : keyBytes key = .error fault) :
    fault.isAboutCredentials = false := by
  unfold keyBytes at h
  split at h
  · unfold encodeText checkHalves at h
    split at h
    · cases h
    · cases h
      rfl
  · cases h
    rfl

theorem readContent_reread (path : String) (key : Value) (content : Bytes) :
    Reread (HoldsMapping key content) (Pairing.ofRead (readContent path key content)).result := by
  by_cases sealed : key.isTrue = true
  · rw [readContent_of_sealed sealed]
    simp only [HoldsMapping, if_pos sealed]
    cases given : keyBytes key with
    | error fault =>
      have opened : openSealed path key content = .error fault := by
        simp [openSealed, given, bind, Except.bind]
      rw [opened]
      exact .failed (by simp) (isAboutCredentials_keyBytes given)
    | ok encoded =>
      cases proper : SealingKey.read encoded with
      | none =>
        have opened : openSealed path key content = .error .badEncryptionKey := by
          simp [openSealed, given, proper, bind, Except.bind]
        rw [opened]
        exact .failed (by simp [proper]) rfl
      | some halves =>
        cases unsealed : SealedToken.content? halves content with
        | none =>
          have opened : openSealed path key content = .error (.undecryptable path) := by
            simp [openSealed, given, proper, unsealed, bind, Except.bind]
          rw [opened]
          exact .refused ⟨encoded, halves, rfl, proper, by simp [unsealed]⟩ rfl
        | some plain =>
          have opened : openSealed path key content = .ok plain := by
            simp [openSealed, given, proper, unsealed, bind, Except.bind]
          have read_eq : openSealed path key content >>= readPlain = readPlain plain := by
            rw [opened]
            rfl
          rw [read_eq]
          simpa [proper, unsealed] using readPlain_reread plain
  · rw [readContent_of_bare sealed]
    simp only [HoldsMapping, if_neg sealed]
    exact readPlain_reread content

/-! ## Files -/

theorem contents_reread (s : Surroundings) (path : Option String) (key : Value) :
    Reread (Readable s key path) (contents s path key).result := by
  unfold contents Readable
  cases path with
  | none => exact .done trivial
  | some path =>
    cases found : Path.nodeAt s path with
    | error fault =>
      obtain rfl := Path.nodeAt_eq_error found
      simp only [found]
      exact .failed id rfl
    | ok node =>
      simp only [found]
      cases node with
      | none => exact .done trivial
      | some node =>
        cases node with
        | directory => exact .failed id rfl
        | regular content => exact readContent_reread path key content

theorem invalidate_reread (s : Surroundings) (name : String) (m : Manager) :
    Reread (Readable s m.key m.path) (Manager.invalidate s (.text name) m).result := by
  rw [(Manager.invalidate_of_taken (m.refuses_text name)).1]
  exact contents_reread s m.path m.key

end Secrets

end HttpRetry
