import HttpRetry.Number.Basic

/-!
# Defaults

The numbers used where a client does not say otherwise.
-/

namespace HttpRetry.Defaults

def initialIntervalMillis : Int := 500
def maxIntervalMillis : Int := 2 * 60 * 1000
def backoffMultiplier : Double := Double.ofInt 2
def maxRetries : Nat := 0
def maxElapsedMillis : Int := 15 * 60 * 1000

/-- No jitter: equal schedules give equal waits. -/
def randomizationFactor : Double := Double.zero false

def unauthorizedStatus : Int := 401

/-! ## Clients without an explicit policy -/

def clientRetryStatusCodes : List Int := [500, 503]
def clientMaxRetries : Nat := 4
def clientMaxIntervalMillis : Int := 60 * 1000

def logFormats : List String := ["json", "console"]

/-- How the marker for "the default policy" is shown. -/
def policyMarker : String := "DEFAULT_RETRY_POLICY"

end HttpRetry.Defaults
