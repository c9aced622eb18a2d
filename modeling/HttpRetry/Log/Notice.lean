import HttpRetry.Log.Level
import HttpRetry.Value.Basic

/-!
# Notices

What the library reports while it works. A notice says what happened; its record
is what a log has of it.
-/

namespace HttpRetry.Log

inductive Component where
  | policy
  | handlers
  | chain
  | credentials
  | secrets
  | audit
  | transport
  | client
deriving DecidableEq

def Component.name : Component → String
  | policy => "retry_policies"
  | handlers => "handlers"
  | chain => "retry_initializer"
  | credentials => "credentials"
  | secrets => "credential_manager"
  | audit => "telemetry"
  | transport => "http_request"
  | client => "request_initializer"

structure Record where
  component : Component
  level : Level
  event : Value
  details : List (String × Value)

inductive SecretSource where
  | environment
  | cache
  | backend
deriving DecidableEq

def SecretSource.name : SecretSource → String
  | environment => "env"
  | cache => "cache"
  | backend => "backend"

inductive RetryReason where
  | ioError
  | status (code : Value)

inductive Notice where
  | policyDisabled
  | retryAfterHonoured (status : Value) (delay : Number)
  | statusWaitsExhausted (status : Value)
  | failureWaitsExhausted (attempts : Nat)
  | retryAfterRefresh (status : Value)
  | retryGranted (status : Value)
  | retryDeclined (status : Value)
  | staticRefreshSkipped
  | refreshFailed (status : Value) (error : String)
  | tokenRefreshed (status : Value)
  | credentialsRefreshed (name : Value)
  | secretsLoaded (path : String) (encrypted : Bool)
  | secretInvalidated (name : Value)
  | secretRetrieved (name : String) (source : SecretSource)
  | backendFailed (name error : String)
  | requestInitialized (id : Value) (retries : Value)
  | requestFailed (error : String)
  | requestRetried (reason : RetryReason) (remaining : Number)
  | requestUnsuccessful (status : Value)

def Notice.record : Notice → Record
  | policyDisabled => ⟨.policy, .info, .text "retry_policy_disabled", []⟩
  | retryAfterHonoured status delay =>
    ⟨.handlers, .info, .text "retry_after_honoured",
      [("status_code", status), ("delay_ms", .number delay)]⟩
  | statusWaitsExhausted status =>
    ⟨.handlers, .debug, .text "backoff_exhausted", [("status_code", status)]⟩
  | failureWaitsExhausted attempts =>
    ⟨.handlers, .warning, .text "backoff_exhausted", [("attempts", .int attempts)]⟩
  | retryAfterRefresh status =>
    ⟨.chain, .info, .text "retry_after_credentials_refresh", [("status_code", status)]⟩
  | retryGranted status => ⟨.chain, .info, .text "retry_attempt", [("status_code", status)]⟩
  | retryDeclined status => ⟨.chain, .debug, .text "retry_declined", [("status_code", status)]⟩
  | staticRefreshSkipped =>
    ⟨.credentials, .debug, .text "static_credentials_refresh_skipped", []⟩
  | refreshFailed status error =>
    ⟨.credentials, .error, .text "credentials_refresh_failed",
      [("status_code", status), ("error", .text error)]⟩
  | tokenRefreshed status =>
    ⟨.credentials, .info, .text "credentials_refreshed", [("status_code", status)]⟩
  | credentialsRefreshed name =>
    ⟨.audit, .info, .text "credentials_refreshed", [("name", name)]⟩
  | secretsLoaded path encrypted =>
    ⟨.audit, .info, .text "secrets_file_loaded",
      [("path", .text path), ("encrypted", .bool encrypted)]⟩
  | secretInvalidated name => ⟨.audit, .info, .text "credential_invalidated", [("name", name)]⟩
  | secretRetrieved name source =>
    ⟨.audit, .info, .text "credential_retrieved",
      [("name", .text name), ("source", .text source.name)]⟩
  | backendFailed name error =>
    ⟨.secrets, .warning, .text "secrets_backend_failed",
      [("name", .text name), ("error", .text error)]⟩
  | requestInitialized id retries =>
    ⟨.client, .debug, .text "request_initialized",
      [("request_id", id), ("max_retries", retries)]⟩
  | requestFailed error => ⟨.transport, .warning, .text "request_failed", [("error", .text error)]⟩
  | requestRetried .ioError remaining =>
    ⟨.transport, .info, .text "request_retry",
      [("reason", .text "io_error"), ("retries_remaining", .number remaining)]⟩
  | requestRetried (.status code) remaining =>
    ⟨.transport, .info, .text "request_retry",
      [("reason", .text "status"), ("status_code", code),
        ("retries_remaining", .number remaining)]⟩
  | requestUnsuccessful status =>
    ⟨.transport, .warning, .text "request_unsuccessful", [("status_code", status)]⟩

end HttpRetry.Log
