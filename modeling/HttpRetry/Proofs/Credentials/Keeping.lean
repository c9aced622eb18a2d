import HttpRetry.Proofs.Act
import HttpRetry.Proofs.Credentials.Renewal
import HttpRetry.Proofs.Value.Lookup

/-!
# The token that is kept

Managed credentials give the token that was supplied to them last, however long ago. A
refresh that is supplied with one puts it in the place of the other. A refresh that is not
leaves the other where it is, and it is given again.
-/

namespace HttpRetry.Credentials.Managed

open Secrets (Manager Vault)

variable {σ ε : Type}

/-! ## What calls keep -/

structure SameKept (s t : Managed × σ) : Prop where
  name : t.1.name = s.1.name
  kept : t.1.kept = s.1.kept

theorem SameKept.refl (s : Managed × σ) : SameKept s s :=
  ⟨rfl, rfl⟩

theorem SameKept.trans {s t u : Managed × σ} (h : SameKept s t) (h' : SameKept t u) :
    SameKept s u :=
  ⟨h'.name.trans h.name, h'.kept.trans h.kept⟩

theorem byManager_sameKept {α : Type} (act : Act (Manager × σ) ε α) :
    (byManager act).Keeps SameKept fun _ => True :=
  fun _ => ⟨⟨rfl, rfl⟩, fun _ _ => trivial⟩

section
variable (vault : Vault σ ε)

theorem lookUp_sameKept : (lookUp vault).Keeps SameKept fun _ => True := by
  refine .bind .trans (.read .refl _) fun name => ?_
  refine .bind .trans (byManager_sameKept _) fun token => ?_
  cases token.isTrue with
  | true => exact .pure .refl _
  | false => exact .bind .trans (.ofExcept .refl _) fun _ => .fail .refl _

def supplyAnew : Act (Managed × σ) ε Value := do
  let name ← .read (·.1.name)
  byManager (vault.invalidate name)
  lookUp vault

theorem supplyAnew_sameKept : (supplyAnew vault).Keeps SameKept fun _ => True := by
  refine .bind .trans (.read .refl _) fun name => ?_
  exact .bind .trans (byManager_sameKept _) fun _ => lookUp_sameKept vault

end

section
variable {vault : Vault σ ε} {state : Managed × σ}

theorem token_of_kept {t : Value} (kept : state.1.kept = some t) :
    token vault state = ⟨.ok t, state, []⟩ := by
  simp [token, bind, Act.andThen, kept]

theorem token_of_unkept (unkept : state.1.kept = none) :
    (token vault state).result = (lookUp vault state).result ∧
      (token vault state).state.1.kept = (lookUp vault state).result.toOption := by
  have same := (lookUp_sameKept vault state).1.kept
  cases looked : lookUp vault state with
  | mk result after events =>
    rw [looked, unkept] at same
    cases result with
    | error fault => simpa [token, bind, Act.andThen, unkept, looked, Except.toOption] using same
    | ok t => simp [token, keep, bind, Act.andThen, unkept, looked, Except.toOption]

theorem refresh_of_supplied {new : Value} (supplied : (supplyAnew vault state).result = .ok new) :
    (refresh vault state).result = .ok () ∧ (refresh vault state).state.1.kept = some new := by
  cases forgotten : byManager (vault.invalidate state.1.name) state with
  | mk result after events =>
    cases result with
    | error fault => simp [supplyAnew, bind, Act.andThen, forgotten] at supplied
    | ok =>
      cases looked : lookUp vault after with
      | mk result after' events' =>
        obtain rfl : result = .ok new := by
          simpa [supplyAnew, bind, Act.andThen, forgotten, looked] using supplied
        simp [refresh, keep, bind, Act.andThen, forgotten, looked]

/-- The old token stays when there is no new one. -/
theorem refresh_of_unsupplied {fault : Fault}
    (unsupplied : (supplyAnew vault state).result = .error fault) :
    (refresh vault state).result = .error fault ∧
      (refresh vault state).state.1.kept = state.1.kept := by
  have same := (supplyAnew_sameKept vault state).1.kept
  cases forgotten : byManager (vault.invalidate state.1.name) state with
  | mk result after events =>
    cases result with
    | error problem =>
      simp only [supplyAnew, bind, Act.andThen, Act.read_apply, forgotten] at unsupplied same
      cases unsupplied
      simpa [refresh, bind, Act.andThen, forgotten] using same
    | ok =>
      cases looked : lookUp vault after with
      | mk result after' events' =>
        simp only [supplyAnew, bind, Act.andThen, Act.read_apply, forgotten, looked]
          at unsupplied same
        subst unsupplied
        simpa [refresh, bind, Act.andThen, forgotten, looked] using same

end

/-! ## Histories -/

inductive Call where
  | token
  | refresh

namespace Call

def run (vault : Vault σ ε) (state : Managed × σ) : Call → Managed × σ
  | token => (Managed.token vault state).state
  | refresh => (Managed.refresh vault state).state

def supplied (vault : Vault σ ε) (state : Managed × σ) : Call → Option Value
  | token =>
    match state.1.kept with
    | some _ => none
    | none => (lookUp vault state).result.toOption
  | refresh => (supplyAnew vault state).result.toOption

end Call

/-- What happens to credentials that start without a token: they are called, and in between
the manager and what lies outside go their own way. The tokens that have been supplied to
them are on record. -/
inductive History (vault : Vault σ ε) : List Value → Managed × σ → Prop
  | start {state} (fresh : state.1.kept = none) : History vault [] state
  | call {supplies state} (c : Call) (before : History vault supplies state) :
      History vault (supplies ++ (c.supplied vault state).toList) (c.run vault state)
  | meanwhile {supplies state after} (before : History vault supplies state)
      (same : SameKept state after) : History vault supplies after

variable {vault : Vault σ ε} {supplies : List Value} {state : Managed × σ}

theorem kept_run (vault : Vault σ ε) (state : Managed × σ) (c : Call) :
    (c.run vault state).1.kept = (c.supplied vault state).or state.1.kept := by
  cases c with
  | token =>
    unfold Call.run Call.supplied
    cases kept : state.1.kept with
    | some t =>
      rw [token_of_kept kept]
      exact kept
    | none => rw [(token_of_unkept kept).2, Option.or_none]
  | refresh =>
    unfold Call.run Call.supplied
    cases supplied : (supplyAnew vault state).result with
    | error fault => exact (refresh_of_unsupplied supplied).2
    | ok new => exact (refresh_of_supplied supplied).2

theorem kept_of_history (history : History vault supplies state) :
    state.1.kept = supplies.getLast? := by
  induction history with
  | start fresh => exact fresh
  | @call supplies state c before ih =>
    rw [kept_run, ih, List.getLast?_append]
    cases c.supplied vault state <;> rfl
  | meanwhile before same ih => rw [same.kept, ih]

def lastSupplied (vault : Vault σ ε) (supplies : List Value) (state : Managed × σ) :
    Except Fault Value :=
  match supplies.getLast? with
  | some last => .ok last
  | none => (lookUp vault state).result

theorem token_of_last (kept : state.1.kept = supplies.getLast?) :
    (token vault state).result = lastSupplied vault supplies state := by
  unfold lastSupplied
  cases last : supplies.getLast? with
  | some t => rw [token_of_kept (kept.trans last)]
  | none => exact (token_of_unkept (kept.trans last)).1

/-- After any history the credentials give the token that was supplied to them last. A
refresh returns if and only if the manager supplies a token anew, which is given from then
on. If it has none the refresh fails, and the last token before it is given again; only
credentials without one then give what the manager supplies, or fail for want of a
credential. -/
theorem token_of_history (history : History vault supplies state) :
    (token vault state).result = lastSupplied vault supplies state ∧
      (∀ new, (supplyAnew vault state).result = .ok new →
        (refresh vault state).result = .ok () ∧
          ∀ after, SameKept (refresh vault state).state after →
            (token vault after).result = .ok new) ∧
      (∀ fault, (supplyAnew vault state).result = .error fault →
        (refresh vault state).result = .error fault ∧
          ∀ after, SameKept (refresh vault state).state after →
            (token vault after).result = lastSupplied vault supplies after) ∧
      ∀ name, state.1.name = .text name → checkHalves CodePoint.isByte name = .ok () →
        (∃ t, (lookUp vault state).result = .ok t) ∨
          (lookUp vault state).result = .error (.noCredential name) := by
  have kept := kept_of_history history
  refine ⟨token_of_last kept, ?_, ?_, ?_⟩
  · intro new supplied
    obtain ⟨returns, keeps⟩ := refresh_of_supplied supplied
    refine ⟨returns, fun after same => ?_⟩
    rw [token_of_kept (same.kept.trans keeps)]
  · intro fault unsupplied
    obtain ⟨raises, keeps⟩ := refresh_of_unsupplied unsupplied
    refine ⟨raises, fun after same => ?_⟩
    exact token_of_last (same.kept.trans (keeps.trans kept))
  · intro name name_eq encodable
    exact lookUp_result vault name_eq encodable

/-! ## A file that changes -/

section
open Handling (fileVault fileStage)

def tokenFile (token : String) : String :=
  "\x7b\"TOKEN\": \"" ++ token ++ "\"\x7d"

/-- The credentials have been asked once, and then the file got another content, if any. -/
theorem history_fileStage (content : Option String) :
    History fileVault [.text "first"] (fileStage content).outer := by
  let unasked : Managed × Surroundings :=
    ({ (fileStage none).outer.1 with kept := none }, (fileStage (some (tokenFile "first"))).outer.2)
  have started : History fileVault [] unasked := .start rfl
  have asked : History fileVault [.text "first"] (Call.token.run fileVault unasked) :=
    started.call .token
  exact asked.meanwhile ⟨rfl, rfl⟩

def Refuses {α : Type} (result : Except Fault α) : Prop :=
  ∃ fault, result = .error fault ∧ fault.isAboutCredentials = true

instance {α : Type} (result : Except Fault α) : Decidable (Refuses result) :=
  match result with
  | .ok _ => isFalse fun ⟨_, h, _⟩ => by cases h
  | .error fault =>
    decidable_of_iff (fault.isAboutCredentials = true)
      ⟨fun about => ⟨fault, rfl, about⟩, fun ⟨_, h, about⟩ => by cases h; exact about⟩

/-- A refresh takes the new token from the file, and it is given from then on. -/
theorem token_of_history_renewed :
    let state := (fileStage (some (tokenFile "second"))).outer
    History fileVault [.text "first"] state ∧ (refresh fileVault state).result = .ok () ∧
      (token fileVault (refresh fileVault state).state).result = .ok (.text "second") := by
  intro state
  have history : History fileVault [.text "first"] state := history_fileStage _
  have supplied : (supplyAnew fileVault state).result = .ok (.text "second") := by
    apply eq_ok_of_text
    decide +kernel
  obtain ⟨-, renews, -⟩ := token_of_history history
  obtain ⟨returns, gives⟩ := renews _ supplied
  exact ⟨history, returns, gives _ (.refl _)⟩

/-- The file is gone, so that the refresh is refused and there is no token any more, but the
old one is given again. -/
theorem token_survives_refresh :
    let state := (fileStage none).outer
    let after := (refresh fileVault state).state
    History fileVault [.text "first"] state ∧ Refuses (refresh fileVault state).result ∧
      Refuses (lookUp fileVault after).result ∧
      (token fileVault after).result = .ok (.text "first") := by
  intro state after
  refine ⟨history_fileStage none, by decide +kernel, by decide +kernel, ?_⟩
  apply eq_ok_of_text
  decide +kernel

end

end HttpRetry.Credentials.Managed
