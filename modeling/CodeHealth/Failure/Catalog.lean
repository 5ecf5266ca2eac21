import CodeHealth.Label
import CodeHealth.Text.Blank

/-! The catalog of failure codes: each has a stable spelling, a category, and what users are told. -/
namespace CodeHealth

inductive Category where
  | authentication
  | network
  | validation
  | resource
  | rateLimit
  | billing
  | fixWorkflow
  | repository
  | analysis
  | system
  deriving DecidableEq

namespace Category

instance : Label Category where
  all := [authentication, network, validation, resource, rateLimit, billing,
    fixWorkflow, repository, analysis, system]
  name
    | authentication => "authentication"
    | network => "network"
    | validation => "validation"
    | resource => "resource"
    | rateLimit => "rate_limit"
    | billing => "billing"
    | fixWorkflow => "fix_workflow"
    | repository => "repository"
    | analysis => "analysis"
    | system => "system"
  mem_all a := by cases a <;> simp
  name_injective a b h := by cases a <;> cases b <;> simp_all

end Category

/-- What the catalog says about one code. -/
structure CatalogEntry where
  code : String
  category : Category
  title : String
  message : String
  action : String
  deriving DecidableEq

inductive FailureCode where
  | sessionExpired
  | unauthorized
  | forbidden
  | sessionNotReady
  | networkOffline
  | networkTimeout
  | serviceUnavailable
  | validationFailed
  | invalidFilter
  | notFound
  | conflict
  | rateLimited
  | quotaExceeded
  | planLimitReached
  | paymentRequired
  | subscriptionInactive
  | fixPreviewRequired
  | fixStale
  | fixMergeConflict
  | fixAlreadyApplied
  | fixPreviewFailed
  | repoNotConnected
  | repoAccessDenied
  | repoTooLarge
  | analysisFailed
  | analysisInProgress
  | analysisTimeout
  | internalError
  | maintenance
  | malformedPayload
  | unknown
  deriving DecidableEq

namespace FailureCode

def all : List FailureCode := [
  sessionExpired, unauthorized, forbidden, sessionNotReady, networkOffline, networkTimeout,
  serviceUnavailable, validationFailed, invalidFilter, notFound, conflict, rateLimited,
  quotaExceeded, planLimitReached, paymentRequired, subscriptionInactive, fixPreviewRequired,
  fixStale, fixMergeConflict, fixAlreadyApplied, fixPreviewFailed, repoNotConnected,
  repoAccessDenied, repoTooLarge, analysisFailed, analysisInProgress, analysisTimeout,
  internalError, maintenance, malformedPayload, unknown]

/-- The remedy where only a larger plan helps. -/
def upgrade : String := "Upgrade your plan at https://repotoire.com/pricing"

def entry : FailureCode → CatalogEntry
  | sessionExpired => ⟨"AUTH_001", .authentication, "Session expired",
    "Your session has expired.",
    "Sign in again to continue."⟩
  | unauthorized => ⟨"AUTH_002", .authentication, "Authentication required",
    "You need to be signed in to do that.",
    "Sign in, or set REPOTOIRE_API_KEY."⟩
  | forbidden => ⟨"AUTH_003", .authentication, "Access denied",
    "You don't have permission to perform this action.",
    "Ask an organization admin for access."⟩
  | sessionNotReady => ⟨"AUTH_004", .authentication, "Session not ready",
    "Authentication has not finished initializing.",
    "Wait a moment and try again."⟩
  | networkOffline => ⟨"NET_001", .network, "Connection failed",
    "Could not reach the Repotoire servers.",
    "Check your internet connection and try again."⟩
  | networkTimeout => ⟨"NET_002", .network, "Request timed out",
    "The server took too long to respond.",
    "Try again. Large repositories can take longer."⟩
  | serviceUnavailable => ⟨"NET_003", .network, "Service unavailable",
    "Repotoire is temporarily unavailable.",
    "Try again in a few minutes."⟩
  | validationFailed => ⟨"VAL_001", .validation, "Invalid request",
    "Some of the submitted data is invalid.",
    "Review the input and try again."⟩
  | invalidFilter => ⟨"VAL_002", .validation, "Invalid filter",
    "One of the filters is not supported.",
    "Clear the filters and try again."⟩
  | notFound => ⟨"RES_001", .resource, "Not found",
    "The requested resource could not be found.",
    "It may have been deleted. Refresh and try again."⟩
  | conflict => ⟨"RES_002", .resource, "Conflict",
    "The resource was changed by someone else.",
    "Refresh to get the latest version."⟩
  | rateLimited => ⟨"RATE_001", .rateLimit, "Too many requests",
    "You're sending requests too quickly.",
    "Wait a minute and try again."⟩
  | quotaExceeded => ⟨"RATE_002", .rateLimit, "Quota exceeded",
    "You've used all analyses included this month.",
    upgrade⟩
  | planLimitReached => ⟨"BILLING_001", .billing, "Plan limit reached",
    "This action exceeds your current plan's limits.",
    upgrade⟩
  | paymentRequired => ⟨"BILLING_002", .billing, "Upgrade required",
    "This feature requires a paid subscription.",
    upgrade⟩
  | subscriptionInactive => ⟨"BILLING_003", .billing, "Subscription inactive",
    "Your subscription is past due or cancelled.",
    "Update your payment method in the billing portal."⟩
  | fixPreviewRequired => ⟨"FIX_001", .fixWorkflow, "Preview required",
    "This fix must be previewed before it can be applied.",
    "Run a preview of the fix first."⟩
  | fixStale => ⟨"FIX_002", .fixWorkflow, "Fix is out of date",
    "The code changed since this fix was generated.",
    "Regenerate the fix against the latest code."⟩
  | fixMergeConflict => ⟨"FIX_003", .fixWorkflow, "Merge conflict",
    "The fix conflicts with recent changes in the repository.",
    "Resolve the conflict manually or regenerate the fix."⟩
  | fixAlreadyApplied => ⟨"FIX_004", .fixWorkflow, "Already applied",
    "This fix has already been applied.",
    "Refresh the fix list."⟩
  | fixPreviewFailed => ⟨"FIX_005", .fixWorkflow, "Preview failed",
    "The fix did not pass sandbox verification.",
    "Review the preview output before approving."⟩
  | repoNotConnected => ⟨"REPO_001", .repository, "Repository not connected",
    "The GitHub App is not installed for this repository.",
    "Reconnect the repository from settings."⟩
  | repoAccessDenied => ⟨"REPO_002", .repository, "Repository access denied",
    "Repotoire can no longer read this repository.",
    "Check the GitHub App permissions."⟩
  | repoTooLarge => ⟨"REPO_003", .repository, "Repository too large",
    "This repository exceeds the size your plan can analyze.",
    upgrade⟩
  | analysisFailed => ⟨"ANALYSIS_001", .analysis, "Analysis failed",
    "The analysis could not be completed.",
    "Try running the analysis again."⟩
  | analysisInProgress => ⟨"ANALYSIS_002", .analysis, "Analysis already running",
    "An analysis is already in progress for this repository.",
    "Wait for it to finish."⟩
  | analysisTimeout => ⟨"ANALYSIS_003", .analysis, "Analysis timed out",
    "The analysis took longer than allowed.",
    "Try again, or exclude generated files."⟩
  | internalError => ⟨"SYS_001", .system, "Something went wrong",
    "An unexpected server error occurred.",
    "Try again. If it keeps happening, contact support with the error code."⟩
  | maintenance => ⟨"SYS_002", .system, "Scheduled maintenance",
    "Repotoire is undergoing maintenance.",
    "Try again shortly."⟩
  | malformedPayload => ⟨"SYS_003", .system, "Unexpected response",
    "The server sent data this client could not read.",
    "Update repotoire-cloud. If it keeps happening, contact support with the error code."⟩
  | unknown => ⟨"UNKNOWN", .system, "Unexpected error",
    "An unexpected error occurred.",
    "Try again or contact support."⟩

def code (c : FailureCode) : String := c.entry.code

/-- The code of that spelling, whatever its case and the blanks around it. -/
def ofCode? (s : String) : Option FailureCode :=
  all.find? fun c => Text.sameIgnoringAsciiCase c.code (Text.trim s)

/-- The code that a response status implies. -/
def ofStatus? (status : UInt16) : Option FailureCode :=
  match status.toNat with
  | 400 => some validationFailed
  | 401 => some sessionExpired
  | 402 => some paymentRequired
  | 403 => some forbidden
  | 404 => some notFound
  | 408 => some networkTimeout
  | 409 => some conflict
  | 422 => some validationFailed
  | 429 => some rateLimited
  | 502 => some serviceUnavailable
  | 503 => some serviceUnavailable
  | 504 => some networkTimeout
  | n => if 500 ≤ n ∧ n ≤ 599 then some internalError else none

end FailureCode

end CodeHealth
