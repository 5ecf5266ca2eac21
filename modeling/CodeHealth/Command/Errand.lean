import CodeHealth.Command.Basic
import CodeHealth.Command.Job
import CodeHealth.Display.Asset
import CodeHealth.Display.Billing
import CodeHealth.Display.Figures
import CodeHealth.Display.Fix
import CodeHealth.Display.Repository

/-! Errands: the commands that talk to the service. Each gives the lines that it prints; words are
read before anything is sent. -/
namespace CodeHealth

open Terminal (Line)

variable {β : Type} [Backend β]

namespace FindingWords

def filters (ws : FindingWords) : Job β FindingFilters := do
  let severity ← Job.word? "severity" ws.severity
  let status ← Job.word? "status" ws.status
  return ⟨severity, ws.detector, status, ws.category, ws.repository, ws.run, ws.search⟩

end FindingWords

namespace Connection

/-- Reads and shows. -/
def look (x : Connection) (q : Query) (display : q.Answer → List Line) : Job β (List Line) := do
  return x.shown q.shape display (← Job.read x.client q)

/-- Changes and shows the answer. -/
def alter (x : Connection) (c : Change) (display : c.Answer → List Line) : Job β (List Line) := do
  return x.shown c.shape display (← Job.change x.client c)

def findings (x : Connection) (ws : FindingWords) (page pageSize : UInt32) (sort : Option String)
    (ascending : Bool) : Job β (List Line) := do
  let filters ← ws.filters
  let params := ListParams.ofPage page pageSize
  let params := match sort with
    | some field =>
      { params with sortBy := some field, direction := if ascending then .asc else .desc }
    | none => params
  let found ← Job.read x.client (.findings filters params)
  if x.json then return [[((Page.shape Finding.shape).encode found).pretty]]
  let counts ← Job.read x.client (.findingsSummary filters.repositoryId)
  return Display.findings found counts

def summary (x : Connection) (repository : Option String) (top : UInt32) : Job β (List Line) := do
  let counts ← Job.read x.client (.findingsSummary repository)
  let detectors ← Job.read x.client (.findingsByDetector repository top)
  if x.json then
    return jsonLines [("summary", SeverityCounts.shape.encode counts),
      ("by_detector", (Shape.list DetectorCount.shape).encode detectors)]
  return Display.summary counts detectors

def triage (x : Connection) (ids : List String) (status : String) (reason : Option String) :
    Job β (List Line) := do
  let status : TriageStatus ← Job.word "status" status
  match ids with
  | [id] => x.alter (.triage id status reason) Display.triaged
  | ids =>
    let list := ids.foldl FindingsList.select {}
    let r ← show Job β BulkUpdate from fun w =>
      let (r, _, w) := list.bulkMark status reason x.client w
      Job.ofOutcome (r, w)
    return x.shown BulkUpdate.shape (Display.triagedAll status list.selection.length) r

def fixes (x : Connection) (status confidence repository finding : Option String)
    (page pageSize : UInt32) : Job β (List Line) := do
  let status ← Job.word? "status" status
  let confidence ← Job.word? "confidence" confidence
  let filters : FixFilters := ⟨status, confidence, repository, finding, none⟩
  let found ← Job.read x.client (.fixes filters (.ofPage page pageSize))
  if x.json then return [[((Page.shape Fix.shape).encode found).pretty]]
  let stats ← Job.read x.client (.fixStats repository)
  return Display.fixes found stats

def fix (x : Connection) : FixAction → Job β (List Line)
  | .look id => x.look (.fix id) Display.fix
  | .approve [id] => x.alter (.approve id) Display.approved
  | .approve ids => x.alter (.approveAll ids) (Display.reviewed "✅ Approved" ids.length)
  | .reject [id] reason => x.alter (.reject id reason) Display.rejected
  | .reject ids reason => x.alter (.rejectAll ids reason) (Display.reviewed "🚫 Rejected" ids.length)
  | .apply id => x.alter (.apply id) Display.applied
  | .preview id => x.alter (.preview id) Display.preview
  | .comment id content => x.alter (.comment id content) Display.commented
  | .comments id => x.look (.fixComments id) Display.comments

def dashboard (x : Connection) (repository : Option String) : Job β (List Line) := do
  let figures ← Job.read x.client (.dashboard repository)
  let health ← Job.read x.client (.healthScore repository)
  if x.json then
    return jsonLines [("summary", Dashboard.shape.encode figures),
      ("health", HealthScore.shape.encode health)]
  return Display.dashboard figures health

def trends (x : Connection) (period : String) (repository : Option String) :
    Job β (List Line) := do
  let period ← Job.word "period" period
  x.look (.trends period repository) (Display.trends period)

/-- Follows a run to its end, or looks at it once. A new poller can count more requests than are
sent here. What the terminal shows in the meantime is left out. -/
def run (x : Connection) (id : String) (wait : Bool) : Job β (List Line) := do
  let poller : Poller := { runId := id, intervalMs := x.settings.intervalMs }
  let r ← show Job β Run from fun w =>
    if wait then
      let (states, _, w) := poller.run x.client w x.settings.maxPolls.toNat
      Job.ofOutcome (((states.bind List.getLast?).getD .pending).result, w)
    else
      let (state, _, w) := poller.poll x.client w
      Job.ofOutcome ((state.getD .pending).result, w)
  return x.shown Run.shape Display.run r

def analyze (x : Connection) (repository : String) (wait : Bool) : Job β (List Line) := do
  let r ← Job.change x.client (.analyze repository)
  if wait then x.run r.id true else return x.shown Run.shape Display.queued r

def repositories (x : Connection) : RepositoryAction → Job β (List Line)
  | .list page => x.look (.repositories (.ofPage page 20)) Display.repositories
  | .connect fullName => x.alter (.connect fullName) Display.connected
  | .remove id => do
    Job.change x.client (.remove id)
    return if x.json then jsonLines [("removed", .text id)] else Display.removed id
  | .history id page => x.look (.runHistory id (.ofPage page 20)) Display.history

def billing (x : Connection) : BillingAction → Job β (List Line)
  | .overview => do
    let subscription ← Job.read x.client .subscription
    let usage ← Job.read x.client .usage
    if x.json then
      return jsonLines [("subscription", Subscription.shape.encode subscription),
        ("usage", Usage.shape.encode usage)]
    return Display.billing subscription usage
  | .invoices page => x.look (.invoices (.ofPage page 20)) Display.invoices
  | .upgrade tier seats => do
    let tier : Plan ← Job.word "tier" tier
    if tier = .free then throw (.told "--tier: choose a paid plan (pro, enterprise)")
    x.alter (.checkout tier seats) (Display.redirect "Complete your upgrade at:")
  | .portal => x.alter .portal (Display.redirect "Manage billing at:")

def assets (x : Connection) (kind search : Option String) (verified : Bool) (page : UInt32) :
    Job β (List Line) := do
  let kind ← Job.word? "type" kind
  x.look (.assets ⟨kind, search, verified⟩ (.ofPage page 20)) Display.assets

def uninstall (x : Connection) (slug : String) : Job β (List Line) := do
  Job.change x.client (.uninstall slug)
  return if x.json then jsonLines [("uninstalled", .text slug)] else Display.uninstalled slug

end Connection

/-- What an errand prints. -/
def Errand.perform (x : Connection) : Errand → Job β (List Line)
  | .findings ws page pageSize sort ascending => x.findings ws page pageSize sort ascending
  | .finding id => x.look (.finding id) Display.finding
  | .summary repository top => x.summary repository top
  | .triage ids status reason => x.triage ids status reason
  | .fixes status confidence repository id page pageSize =>
    x.fixes status confidence repository id page pageSize
  | .fix action => x.fix action
  | .dashboard repository => x.dashboard repository
  | .trends period repository => x.trends period repository
  | .repositories action => x.repositories action
  | .analyze repository wait => x.analyze repository wait
  | .run id wait => x.run id wait
  | .billing action => x.billing action
  | .assets kind search verified page => x.assets kind search verified page
  | .installedAssets => x.look .installedAssets Display.installedAssets
  | .install slug => x.alter (.install slug) Display.installed
  | .uninstall slug => x.uninstall slug

end CodeHealth
