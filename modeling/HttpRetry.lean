import HttpRetry.Rehearsal.PolicyTrial
import HttpRetry.Fault.Family
import HttpRetry.RetryAfter
import HttpRetry.Challenge
import HttpRetry.Policy.OfSettings
import HttpRetry.Log.Notice
import HttpRetry.Act
import HttpRetry.Credentials.Managed
import HttpRetry.Request.Execution
import HttpRetry.Client.Initializer
import HttpRetry.Client.Order
import HttpRetry.Rehearsal.LogTrial
import HttpRetry.Proofs.Request.Attempt
import HttpRetry.Proofs.Number.Order
import HttpRetry.Proofs.Request.Trace
import HttpRetry.Proofs.Request.Account
import HttpRetry.Proofs.Request.Budget
import HttpRetry.Proofs.Backoff.Waits
import HttpRetry.Proofs.Handling.Waiting
import HttpRetry.Proofs.Act
import HttpRetry.Proofs.Handling.Bearer
import HttpRetry.Proofs.Handling.Installed
import HttpRetry.Proofs.Request.Passage
import HttpRetry.Proofs.Request.Waits
import HttpRetry.Proofs.Request.Life
import HttpRetry.Proofs.Request.Rounds
import HttpRetry.Proofs.Request.Orderly
import HttpRetry.Proofs.Request.Prepared
import HttpRetry.Proofs.Number.Product
import HttpRetry.Proofs.Backoff.Growth
import HttpRetry.Proofs.Calendar.Width
import HttpRetry.Proofs.RetryAfter.Answers
import HttpRetry.Proofs.Credentials.Renewal
import HttpRetry.Proofs.Backoff.Allowance
import HttpRetry.Proofs.Handling.Draws
import HttpRetry.Proofs.Request.Overdue
import HttpRetry.Proofs.Handling.Stamps
import HttpRetry.Proofs.Request.Headers
import HttpRetry.Proofs.Request.Releases
import HttpRetry.Proofs.Challenge.Pieces
import HttpRetry.Proofs.Challenge.Offers
import HttpRetry.Proofs.Challenge.Positions
import HttpRetry.Proofs.Credentials.Keeping
import HttpRetry.Proofs.Secrets.Memory
import HttpRetry.Proofs.Secrets.Rejection
import HttpRetry.Proofs.Policy.Acceptance
import HttpRetry.Proofs.Backoff.Lockstep
import HttpRetry.Proofs.Backoff.Asking
import HttpRetry.Proofs.Backoff.Ascent
import HttpRetry.Proofs.Settings.Sources
import HttpRetry.Proofs.Text.Numeral
import HttpRetry.Proofs.Value.Array
import HttpRetry.Proofs.Settings.Variables
import HttpRetry.Proofs.Settings.Loading
import HttpRetry.Proofs.Policy.Variables
import HttpRetry.Proofs.Backoff.Requested
import HttpRetry.Proofs.Backoff.Powers
import HttpRetry.Proofs.Backoff.Shift
import HttpRetry.Proofs.Backoff.Descent
import HttpRetry.Proofs.Backoff.Patience
import HttpRetry.Proofs.Text.Words
import HttpRetry.Proofs.Calendar.Written
import HttpRetry.Proofs.RetryAfter.Dates
import HttpRetry.Proofs.Handling.Decisions
import HttpRetry.Proofs.Policy.Options
import HttpRetry.Proofs.Settings.Again
import HttpRetry.Proofs.Settings.Names
import HttpRetry.Proofs.Settings.References
import HttpRetry.Proofs.Settings.Replacing
import HttpRetry.Proofs.Settings.Shadowing
