import CodeHealth.Failure.Catalog
import CodeHealth.Text.Phrase

/-! Codes that are recognised by the wording of a message. The first row with a phrase that occurs
in the message decides. -/
namespace CodeHealth.MessagePattern

open Text.Phrase

def table : List (List Text.Phrase × FailureCode) := [
  ([[text "time", optional "d", optional " ", text "out"], [text "timeout"],
    [text "deadline exceeded"]], .networkTimeout),
  ([[text "failed to fetch"], [text "network", optional " ", text "error"],
    [text "connection ", choice ["refused", "reset", "closed"]], [text "dns"],
    [text "unreachable"], [text "offline"]], .networkOffline),
  ([[choice ["token", "session", "jwt"], text " ", optional "has ", text "expired"]],
    .sessionExpired),
  ([[text "unauthori", choice ["s", "z"], text "ed"], [text "not authenticated"],
    [text "invalid ", optional "api ", text "key"], [text "invalid token"]], .unauthorized),
  ([[text "forbidden"], [text "permission denied"], [text "not allowed"]], .forbidden),
  ([[text "rate limit"], [text "too many requests"]], .rateLimited),
  ([[text "quota"]], .quotaExceeded),
  ([[text "plan limit"], [text "upgrade ", optional "your ", text "plan"],
    [text "limit reached"]], .planLimitReached),
  ([[text "payment required"], [text "subscription required"]], .paymentRequired),
  ([[text "merge conflict"], [text "conflict", optional "s", text " with"]], .fixMergeConflict),
  ([[text "preview ", optional "is ", text "required"], [text "must be previewed"]],
    .fixPreviewRequired),
  ([[.edge, text "stale", .edge], [text "out of date"], [text "outdated"]], .fixStale),
  ([[text "not connected"], [text "installation ", choice ["not found", "missing"]]],
    .repoNotConnected),
  ([[text "analysis ", choice ["failed", "error"]]], .analysisFailed),
  ([[text "already running"], [text "already in progress"]], .analysisInProgress),
  ([[text "not found"]], .notFound),
  ([[text "validation"], [text "invalid"], [text "field required"]], .validationFailed),
  ([[text "maintenance"]], .maintenance),
  ([[text "internal server error"]], .internalError)]

def find? (message : String) : Option FailureCode :=
  (table.find? fun row => row.1.any (Text.Phrase.occursIn · message)).map (·.2)

end CodeHealth.MessagePattern
