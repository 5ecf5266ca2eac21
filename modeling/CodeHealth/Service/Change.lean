import CodeHealth.Billing
import CodeHealth.Cache.Event
import CodeHealth.Filters
import CodeHealth.Repository
import CodeHealth.Service.Call

/-! Changes: everything that can be altered. Each has a call that makes it, and the event that it
is when it has been made. -/
namespace CodeHealth

open Text.Percent (encode)

inductive Change where
  | triage (id : String) (status : TriageStatus) (reason : Option String)
  | triageAll (ids : List String) (status : TriageStatus) (reason : Option String)
  | approve (id : String)
  | reject (id : String) (reason : Option String)
  | apply (id : String)
  | preview (id : String)
  | approveAll (ids : List String)
  | rejectAll (ids : List String) (reason : Option String)
  | comment (id content : String)
  | checkout (tier : Plan) (seats : UInt32)
  | portal
  | connect (fullName : String)
  | remove (id : String)
  | analyze (repository : String)
  | install (slug : String)
  | uninstall (slug : String)
  deriving DecidableEq

namespace Change

/-- The type of the answer. -/
abbrev Answer : Change → Type
  | triage .. => Finding
  | triageAll .. => BulkUpdate
  | approve _ => Fix
  | reject .. => Fix
  | apply _ => Fix
  | preview _ => Preview
  | approveAll _ => BatchResult
  | rejectAll .. => BatchResult
  | comment .. => FixComment
  | checkout .. => Redirect
  | portal => Redirect
  | connect _ => Repository
  | remove _ => Unit
  | analyze _ => Run
  | install _ => InstalledAsset
  | uninstall _ => Unit

def shape : (c : Change) → Shape c.Answer
  | triage .. => Finding.shape
  | triageAll .. => BulkUpdate.shape
  | approve _ => Fix.shape
  | reject .. => Fix.shape
  | apply _ => Fix.shape
  | preview _ => Preview.shape
  | approveAll _ => BatchResult.shape
  | rejectAll .. => BatchResult.shape
  | comment .. => FixComment.shape
  | checkout .. => Redirect.shape
  | portal => Redirect.shape
  | connect _ => Repository.shape
  | remove _ => .unit
  | analyze _ => Run.shape
  | install _ => InstalledAsset.shape
  | uninstall _ => .unit

def method : Change → Method
  | triage .. => .patch
  | remove _ => .delete
  | uninstall _ => .delete
  | _ => .post

def path : Change → String
  | triage id .. => "/findings/" ++ encode id ++ "/status"
  | triageAll .. => "/findings/batch-status"
  | approve id => "/fixes/" ++ encode id ++ "/approve"
  | reject id _ => "/fixes/" ++ encode id ++ "/reject"
  | apply id => "/fixes/" ++ encode id ++ "/apply"
  | preview id => "/fixes/" ++ encode id ++ "/preview"
  | approveAll _ => "/fixes/batch"
  | rejectAll .. => "/fixes/batch"
  | comment id _ => "/fixes/" ++ encode id ++ "/comments"
  | checkout .. => "/billing/checkout"
  | portal => "/billing/portal"
  | connect _ => "/repositories"
  | remove id => "/repositories/" ++ encode id
  | analyze id => "/repositories/" ++ encode id ++ "/analyze"
  | install slug => "/marketplace/assets/" ++ encode slug ++ "/install"
  | uninstall slug => "/marketplace/assets/" ++ encode slug ++ "/install"

def texts (ids : List String) : Json := .list (ids.map .text)

/-- A reason appears only where one is given. -/
def reasonMember : Option String → List (String × Json)
  | some r => [("reason", .text r)]
  | none => []

def body? : Change → Option Json
  | triage _ status reason =>
    some (.record (("status", .text (Label.name status)) :: reasonMember reason))
  | triageAll ids status reason => some (.record
      (("finding_ids", texts ids) :: ("status", .text (Label.name status)) :: reasonMember reason))
  | reject _ reason => some (.record (reasonMember reason))
  | approveAll ids => some (.record [("fix_ids", texts ids), ("action", .text "approve")])
  | rejectAll ids reason => some (.record
      (("fix_ids", texts ids) :: ("action", .text "reject") :: reasonMember reason))
  | comment _ content => some (.record [("content", .text content)])
  | checkout tier seats =>
    some (.record [("tier", .text (Label.name tier)), ("seats", .whole seats.toNat)])
  | connect fullName => some (.record [("full_name", .text fullName)])
  | _ => none

def call (c : Change) : Call c.Answer where
  method := c.method
  path := c.path
  body := c.body?
  answer := c.shape

def event : Change → Event
  | triage .. => .findingsStatusUpdated
  | triageAll .. => .findingsStatusUpdated
  | approve _ => .fixApproved
  | reject .. => .fixRejected
  | apply _ => .fixApplied
  | preview _ => .fixPreviewed
  | approveAll _ => .fixesBatchUpdated
  | rejectAll .. => .fixesBatchUpdated
  | comment .. => .fixCommentAdded
  | checkout .. => .subscriptionChanged
  | portal => .subscriptionChanged
  | connect _ => .repositoryConnected
  | remove _ => .repositoryRemoved
  | analyze _ => .analysisStarted
  | install _ => .assetInstalled
  | uninstall _ => .assetUninstalled

/-- The thing that the event happens to. -/
def entity? : Change → Option String
  | triage id .. => some id
  | approve id => some id
  | reject id _ => some id
  | apply id => some id
  | preview id => some id
  | comment id _ => some id
  | remove id => some id
  | analyze id => some id
  | install slug => some slug
  | uninstall slug => some slug
  | _ => none

/-- The key under which the answer itself is kept: the outcome of a trial run is worth it. -/
def keep? : Change → Option Key
  | preview id => some (.fixPreview id)
  | _ => none

end Change

end CodeHealth
