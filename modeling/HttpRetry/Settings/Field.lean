/-!
# Fields of settings

The nine settings by name.
-/

namespace HttpRetry.Settings

inductive Field where
  | connectTimeoutMillis
  | readTimeoutMillis
  | retryEnabled
  | retryMaxRetries
  | retryStatusCodes
  | retryMaxIntervalMillis
  | retryBackoffMultiplier
  | logLevel
  | logFormat
deriving DecidableEq

namespace Field

def all : List Field := [connectTimeoutMillis, readTimeoutMillis, retryEnabled, retryMaxRetries,
  retryStatusCodes, retryMaxIntervalMillis, retryBackoffMultiplier, logLevel, logFormat]

def name : Field → String
  | connectTimeoutMillis => "connect_timeout_millis"
  | readTimeoutMillis => "read_timeout_millis"
  | retryEnabled => "retry_enabled"
  | retryMaxRetries => "retry_max_retries"
  | retryStatusCodes => "retry_status_codes"
  | retryMaxIntervalMillis => "retry_max_interval_millis"
  | retryBackoffMultiplier => "retry_backoff_multiplier"
  | logLevel => "log_level"
  | logFormat => "log_format"

def ofName? (name : String) : Option Field :=
  all.find? (·.name = name)

end Field

end HttpRetry.Settings
