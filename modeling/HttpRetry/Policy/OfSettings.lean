import HttpRetry.Log.Notice
import HttpRetry.Policy.Build
import HttpRetry.Settings.Basic

/-!
# The policy that settings describe

Settings say whether there are retries at all. If there are, their policy is
accepted under the same rules as one that is built from options.
-/

namespace HttpRetry.Policy

/-- The policy of the settings, or none where they turn retries off. Their codes are in the
order of a table before the policy puts them into its own. -/
def ofSettings (s : Settings) : Except Fault (Option Policy) :=
  if s.retryEnabled then
    (accept
      { codes := .list ((SlotTable.order s.retryStatusCodes).map Value.int)
        maxRetries := .int s.retryMaxRetries
        ceiling := .int s.retryMaxIntervalMillis
        multiplier := .double s.retryBackoffMultiplier }).map some
  else .ok none

def settingsNotices (s : Settings) : List Log.Notice :=
  if s.retryEnabled then [] else [.policyDisabled]

end HttpRetry.Policy
