import HttpRetry.Credentials.Managed
import HttpRetry.Proofs.Handling.Bearer
import HttpRetry.Proofs.Secrets.Answers
import HttpRetry.Proofs.Secrets.Reload

/-!
# Renewal of managed credentials

A refresh supplies a token, or is refused for want of one, as long as the secrets file is
readable. The handler of credentials gets over a refusal and over nothing else.
-/

namespace HttpRetry

open Secrets (Manager Vault Readable Reread)

/-! ## Refreshing -/

namespace Credentials.Managed

variable {σ ε : Type}

inductive Refreshed (readable : Prop) (reply : Reply (Managed × σ) ε Unit) : Prop
  | supplied {token : Value} (h : readable) (result : reply.result = .ok ())
      (kept : reply.state.1.kept = some token)
  | refused {fault : Fault} (h : readable) (result : reply.result = .error fault)
      (about : fault.isAboutCredentials = true)
  | failed {fault : Fault} (h : ¬readable) (result : reply.result = .error fault)
      (about : fault.isAboutCredentials = false)

variable (vault : Vault σ ε) {state : Managed × σ} {name : String}
  (name_eq : state.1.name = .text name) (encodable : checkHalves CodePoint.isByte name = .ok ())
include name_eq encodable

theorem lookUp_result : (∃ token, (lookUp vault state).result = .ok token) ∨
    (lookUp vault state).result = .error (.noCredential name) := by
  obtain ⟨⟨manager, secret, kept⟩, outer⟩ := state
  obtain rfl : secret = .text name := name_eq
  have found := vault.getNamed_result name manager outer
  rw [← vault.get_of_encodable encodable] at found
  cases asked : vault.get (.text name) (manager, outer) with
  | mk result after events =>
    rw [asked] at found
    subst found
    cases truth : (vault.answer name (manager.cache.getText? name) outer).isTrue with
    | true =>
      left
      refine ⟨vault.answer name (manager.cache.getText? name) outer, ?_⟩
      simp [lookUp, byManager, bind, Act.andThen, asked, truth]
    | false =>
      right
      have shown : plainText (.text name) = .ok name := rfl
      simp [lookUp, byManager, bind, Act.andThen, asked, truth, shown]

theorem refresh_refreshed : Refreshed
    (Readable (vault.surroundings state.2) state.1.manager.key state.1.manager.path)
    (refresh vault state) := by
  obtain ⟨⟨manager, secret, kept⟩, outer⟩ := state
  obtain rfl : secret = .text name := name_eq
  have reread := Secrets.invalidate_reread (vault.surroundings outer) name manager
  cases invalidated : Manager.invalidate (vault.surroundings outer) (.text name) manager with
  | mk result m events =>
    rw [invalidated] at reread
    have forget_eq : byManager (vault.invalidate (.text name))
        (⟨manager, .text name, kept⟩, outer) =
          ⟨result, (⟨m, .text name, kept⟩, outer), events.map vault.tell⟩ := by
      simp [byManager, Vault.invalidate, Vault.byManager, bind, Act.andThen, invalidated]
    cases reread with
    | refused readable about =>
      exact .refused readable (by simp [refresh, bind, Act.andThen, forget_eq]) about
    | failed unreadable about =>
      exact .failed unreadable (by simp [refresh, bind, Act.andThen, forget_eq]) about
    | done readable =>
      have found : (∃ token, (lookUp vault (⟨m, .text name, kept⟩, outer)).result = .ok token) ∨
          (lookUp vault (⟨m, .text name, kept⟩, outer)).result = .error (.noCredential name) :=
        lookUp_result vault rfl encodable
      cases looked : lookUp vault (⟨m, .text name, kept⟩, outer) with
      | mk result after events =>
        rw [looked] at found
        rcases found with ⟨token, rfl⟩ | rfl
        · have kept_eq : (refresh vault (⟨manager, .text name, kept⟩, outer)).state.1.kept =
              some token := by
            simp [refresh, keep, bind, Act.andThen, forget_eq, looked]
          refine .supplied readable ?_ kept_eq
          simp [refresh, keep, bind, Act.andThen, forget_eq, looked]
        · have result_eq : (refresh vault (⟨manager, .text name, kept⟩, outer)).result =
              .error (.noCredential name) := by
            simp [refresh, bind, Act.andThen, forget_eq, looked]
          exact .refused readable result_eq rfl

def SuppliesUnshowable (vault : Vault σ ε) (state : Managed × σ) : Prop :=
  (refresh vault state).result = .ok () ∧
    ∃ token fault, (refresh vault state).state.1.kept = some token ∧
      plainText token = .error fault

end Credentials.Managed

/-! ## The handler -/

theorem isAboutCredentials_plainText {v : Value} {fault : Fault} (h : plainText v = .error fault) :
    fault.isAboutCredentials = false := by
  cases plain : v.plain with
  | ok =>
    rw [plainText, plain] at h
    cases h
  | error =>
    rw [plainText, plain] at h
    cases h
    rfl

namespace Handling

open Credentials (Managed)
open Credentials.Managed (Refreshed SuppliesUnshowable refresh refresh_refreshed)

section
variable {σ ε : Type} (host : Host σ ε) (s : Stage σ) {r : Response}

theorem renew_of_refresh_error {fault : Fault}
    (refused : (host.credentials.refresh s.outer).result = .error fault) :
    (renew host s).result = .error fault ∧ (renew host s).state.request = s.request := by
  simp [renew, aside, bind, Act.andThen, refused]

theorem renew_of_refresh_ok (refreshed : (host.credentials.refresh s.outer).result = .ok ()) :
    (renew host s).result =
        (stamp host { s with outer := (host.credentials.refresh s.outer).state }).result ∧
      (renew host s).state =
        (stamp host { s with outer := (host.credentials.refresh s.outer).state }).state := by
  simp [renew, aside, bind, Act.andThen, refreshed]

end

variable {σ ε : Type} {vault : Vault σ ε} {host : Host (Managed × σ) ε}
  (managed : host.credentials = Managed.credentials vault)

section
include managed
variable {t : Stage (Managed × σ)} {token : Value} {fields : Entries}
  (kept : t.outer.1.kept = some token)
include kept

theorem token_of_kept : host.credentials.token t.outer = ⟨.ok token, t.outer, []⟩ := by
  rw [managed]
  simp [Managed.credentials, Managed.token, bind, Act.andThen, kept]

theorem stamp_of_shown {text : String} (shown : plainText token = .ok text)
    (fields_eq : t.request.headers = .map fields) : (stamp host t).result = .ok () := by
  have stamped : ∃ r, t.request.withToken text = .ok r := by
    simp only [Request.withToken, Request.setField, fields_eq]
    exact ⟨_, rfl⟩
  obtain ⟨r, stamped⟩ := stamped
  simp [stamp, aside, bind, Act.andThen, token_of_kept managed kept, shown, stamped]

theorem stamp_of_unshown {fault : Fault} (unshown : plainText token = .error fault) :
    stamp host t = ⟨.error fault, t, []⟩ := by
  simp [stamp, aside, bind, Act.andThen, token_of_kept managed kept, unshown]

end

section
include managed
variable {s : Stage (Managed × σ)} {r : Response} {name : String} {fields : Entries} {needed : Bool}

/-- The handler fails if a refresh is needed and the secrets file is not readable, or a token
is supplied that cannot be shown, and in no other case. It grants a retry if a token is
supplied and put into the request, and otherwise leaves the request as it was. -/
theorem answerBearer_managed (name_eq : s.outer.1.name = .text name)
    (encodable : checkHalves CodePoint.isByte name = .ok ())
    (fields_eq : s.request.headers = .map fields)
    (told : Challenge.needsRefresh r = .ok needed) :
    let reply := answerBearer host r s
    let manager := s.outer.1.manager
    ((∃ fault, reply.result = .error fault) ↔ needed = true ∧
      (¬Readable (vault.surroundings s.outer.2) manager.key manager.path ∨
        SuppliesUnshowable vault s.outer)) ∧
    (reply.result = .ok (.bool true) ↔ needed = true ∧
      (refresh vault s.outer).result = .ok () ∧ ¬SuppliesUnshowable vault s.outer) ∧
    (∀ v, reply.result = .ok v → v = .bool true ∨ v = .bool false) ∧
    (reply.result ≠ .ok (.bool true) → reply.state.request = s.request) := by
  intro reply manager
  cases needed with
  | false =>
    have reply_eq : reply = ⟨.ok (.bool false), s, []⟩ := by
      simp [reply, answerBearer, bind, Act.andThen, told]
    simp [reply_eq]
  | true =>
    obtain ⟨notices, -, reply_eq⟩ := answerBearer_of_needed host s told
    have state_eq : reply.state = (renew host s).state := congrArg Reply.state reply_eq
    have result_eq : reply.result = answerTo (renew host s).result := congrArg Reply.result reply_eq
    have refresh_eq : host.credentials.refresh = refresh vault := by rw [managed]; rfl
    cases refresh_refreshed vault name_eq encodable with
    | refused readable result about =>
      obtain ⟨renewed, request_eq⟩ := renew_of_refresh_error host s (refresh_eq ▸ result)
      simp only [renewed, answerTo, about, if_true] at result_eq
      simp [result_eq, readable, manager, SuppliesUnshowable, result, state_eq, request_eq]
    | failed unreadable result about =>
      obtain ⟨renewed, request_eq⟩ := renew_of_refresh_error host s (refresh_eq ▸ result)
      simp only [renewed, answerTo, about] at result_eq
      simp [result_eq, unreadable, manager, SuppliesUnshowable, result, state_eq, request_eq]
    | @supplied token readable result kept =>
      obtain ⟨renewed, after_eq⟩ := renew_of_refresh_ok host s (refresh_eq ▸ result)
      rw [refresh_eq] at renewed after_eq
      cases shown : plainText token with
      | ok text =>
        have stamped := stamp_of_shown managed (t := { s with outer := (refresh vault s.outer).state })
          kept shown fields_eq
        simp only [renewed, stamped, answerTo] at result_eq
        simp [result_eq, readable, manager, SuppliesUnshowable, result, kept, shown]
      | error fault =>
        have stamped := stamp_of_unshown managed
          (t := { s with outer := (refresh vault s.outer).state }) kept shown
        simp only [renewed, stamped, answerTo, isAboutCredentials_plainText shown] at result_eq
        rw [after_eq, stamped] at state_eq
        simp [result_eq, manager, SuppliesUnshowable, result, kept, shown, state_eq]

end

/-! ## A token in a file -/

def fileVault : Vault Surroundings Log.Notice :=
  { surroundings := id, backend := none, tell := id }

def fileHost : Host (Managed × Surroundings) Log.Notice :=
  { millis := fun _ => .ok 0, pause := fun _ => pure (), today := fun _ => ⟨⟨1, 1, 1, 0, 0, 0⟩, 0⟩
    credentials := Managed.credentials fileVault
    send := fun _ => pure (.ofStatus 200), consult := fun _ _ => pure .null }

def fileStage (content : Option String) : Stage (Managed × Surroundings) :=
  { request :=
      { id := .null, method := .text "GET", url := .text "https://example.com/v1"
        headers := .map [(.text Request.authorization, .text "Bearer first")]
        json := .null, params := .null, session := .session, ownsSession := .bool false
        connectTimeout := .int 0, readTimeout := .int 0, retries := .int 1
        onResponse := .bearer, onFailure := .absent, replaced := [] }
    generators := []
    outer :=
      (⟨⟨some "secrets.json", .null, [(.text "TOKEN", .text "first")]⟩, .text "TOKEN",
        some (.text "first")⟩,
        ⟨[], (content.map fun text => ("secrets.json", .regular (Utf8.encode text))).toList⟩) }

theorem managed_fileHost : fileHost.credentials = Managed.credentials fileVault := rfl

/-- Without the file there is no token: no retry, and the request is as it was. -/
theorem answerBearer_managed_missing :
    let reply := answerBearer fileHost (.ofStatus 401) (fileStage none)
    reply.result = .ok (.bool false) ∧ reply.state.request = (fileStage none).request := by
  intro reply
  have told : Challenge.needsRefresh (.ofStatus 401) = .ok true := by rfl
  obtain ⟨raises, grants, answers, unchanged⟩ := answerBearer_managed managed_fileHost
    (s := fileStage none) rfl rfl rfl told
  have refused : (refresh fileVault (fileStage none).outer).result.toOption = none := by
    decide +kernel
  have missing : Path.nodeAt ⟨[], []⟩ "secrets.json" = .ok none := by
    have looked : (Path.nodeAt ⟨[], []⟩ "secrets.json").toOption = some none := by decide +kernel
    cases found : Path.nodeAt ⟨[], []⟩ "secrets.json" with
    | error => simp [found, Except.toOption] at looked
    | ok node => simpa [found, Except.toOption] using looked
  have denied : reply.result ≠ .ok (.bool true) := by
    intro granted
    rw [(grants.mp granted).2.1] at refused
    cases refused
  refine ⟨?_, unchanged denied⟩
  cases result : reply.result with
  | ok v =>
    rcases answers v result with rfl | rfl
    · exact absurd result denied
    · rfl
  | error fault =>
    rcases (raises.mp ⟨fault, result⟩).2 with unreadable | supplies
    · exact absurd (by simp [Readable, fileStage, fileVault, missing]) unreadable
    · rw [supplies.1] at refused
      cases refused

/-- A file of one brace makes the handler fail. -/
theorem answerBearer_raises :
    ∃ fault, (answerBearer fileHost (.ofStatus 401) (fileStage (some "\x7b"))).result =
      .error fault := by
  have raised : (answerBearer fileHost (.ofStatus 401)
      (fileStage (some "\x7b"))).result.toOption.isNone = true := by decide +kernel
  cases result : (answerBearer fileHost (.ofStatus 401) (fileStage (some "\x7b"))).result with
  | ok => simp [result, Except.toOption] at raised
  | error fault => exact ⟨fault, rfl⟩

end Handling

end HttpRetry
