import CodeHealth.Billing
import CodeHealth.Cache.Key
import CodeHealth.Filters
import CodeHealth.Repository
import CodeHealth.Service.Call

/-! Queries: everything that can be read. Each has a key under which its answer is kept, and a call
that fetches it. -/
namespace CodeHealth

open Text.Percent (encode)

inductive Query where
  | findings (filters : FindingFilters) (params : ListParams)
  | finding (id : String)
  | findingsSummary (repository : Option String)
  | findingsByDetector (repository : Option String) (limit : UInt32)
  | fixes (filters : FixFilters) (params : ListParams)
  | fix (id : String)
  | fixStats (repository : Option String)
  | fixComments (id : String)
  | dashboard (repository : Option String)
  | trends (period : Period) (repository : Option String)
  | healthScore (repository : Option String)
  | repositories (params : ListParams)
  | repository (id : String)
  | runStatus (runId : String)
  | runHistory (repository : String) (params : ListParams)
  | subscription
  | usage
  | invoices (params : ListParams)
  | assets (filters : AssetFilters) (params : ListParams)
  | asset (slug : String)
  | installedAssets
  deriving DecidableEq

namespace Query

/-- The type of the answer. -/
abbrev Answer : Query → Type
  | findings .. => Page Finding
  | finding _ => Finding
  | findingsSummary _ => SeverityCounts
  | findingsByDetector .. => List DetectorCount
  | fixes .. => Page Fix
  | fix _ => Fix
  | fixStats _ => FixStats
  | fixComments _ => List FixComment
  | dashboard _ => Dashboard
  | trends .. => List TrendPoint
  | healthScore _ => HealthScore
  | repositories _ => Page Repository
  | repository _ => Repository
  | runStatus _ => Run
  | runHistory .. => Page Run
  | subscription => Subscription
  | usage => Usage
  | invoices _ => Page Invoice
  | assets .. => Page Asset
  | asset _ => Asset
  | installedAssets => List InstalledAsset

def shape : (q : Query) → Shape q.Answer
  | findings .. => Page.shape Finding.shape
  | finding _ => Finding.shape
  | findingsSummary _ => SeverityCounts.shape
  | findingsByDetector .. => .list DetectorCount.shape
  | fixes .. => Page.shape Fix.shape
  | fix _ => Fix.shape
  | fixStats _ => FixStats.shape
  | fixComments _ => .list FixComment.shape
  | dashboard _ => Dashboard.shape
  | trends .. => .list TrendPoint.shape
  | healthScore _ => HealthScore.shape
  | repositories _ => Page.shape Repository.shape
  | repository _ => Repository.shape
  | runStatus _ => Run.shape
  | runHistory .. => Page.shape Run.shape
  | subscription => Subscription.shape
  | usage => Usage.shape
  | invoices _ => Page.shape Invoice.shape
  | assets .. => Page.shape Asset.shape
  | asset _ => Asset.shape
  | installedAssets => .list InstalledAsset.shape

def path : Query → String
  | findings .. => "/findings"
  | finding id => "/findings/" ++ encode id
  | findingsSummary _ => "/findings/summary"
  | findingsByDetector .. => "/findings/by-detector"
  | fixes .. => "/fixes"
  | fix id => "/fixes/" ++ encode id
  | fixStats _ => "/fixes/stats"
  | fixComments id => "/fixes/" ++ encode id ++ "/comments"
  | dashboard _ => "/analytics/summary"
  | trends .. => "/analytics/trends"
  | healthScore _ => "/analytics/health-score"
  | repositories _ => "/repositories"
  | repository id => "/repositories/" ++ encode id
  | runStatus id => "/analysis/" ++ encode id ++ "/status"
  | runHistory id _ => "/repositories/" ++ encode id ++ "/analyses"
  | subscription => "/billing/subscription"
  | usage => "/billing/usage"
  | invoices _ => "/billing/invoices"
  | assets .. => "/marketplace/assets"
  | asset slug => "/marketplace/assets/" ++ encode slug
  | installedAssets => "/marketplace/installed"

def pairs : Query → Pairs
  | findings f p => f.pairs ++ p.pairs
  | findingsSummary r => .optional "repository_id" r
  | findingsByDetector r limit => .optional "repository_id" r ++ [("limit", toString limit.toNat)]
  | fixes f p => f.pairs ++ p.pairs
  | fixStats r => .optional "repository_id" r
  | dashboard r => .optional "repository_id" r
  | trends period r => ("period", Label.name period) :: Pairs.optional "repository_id" r
  | healthScore r => .optional "repository_id" r
  | repositories p => p.pairs
  | runHistory _ p => p.pairs
  | invoices p => p.pairs
  | assets f p => f.pairs ++ p.pairs
  | _ => []

def call (q : Query) : Call q.Answer where
  method := .get
  path := q.path
  query := q.pairs
  answer := q.shape

/-! ### Keys -/

def listParts (p : ListParams) : List KeyPart :=
  [.ofUInt32 p.page, .ofUInt32 p.pageSize, .ofText? p.sortBy, .text (Label.name p.direction)]

def findingParts (f : FindingFilters) : List KeyPart :=
  [.ofText? (f.severity.map Label.name), .ofText? f.detector, .ofText? (f.status.map Label.name),
    .ofText? f.category, .ofText? f.repositoryId, .ofText? f.analysisRunId, .ofText? f.search]

def fixParts (f : FixFilters) : List KeyPart :=
  [.ofText? (f.status.map Label.name), .ofText? (f.confidence.map Label.name),
    .ofText? f.repositoryId, .ofText? f.findingId, .ofText? f.search]

def assetParts (f : AssetFilters) : List KeyPart :=
  [.ofText? (f.kind.map Label.name), .ofText? f.search, .flag f.verifiedOnly]

/-- Filters that are not given take their place in the key as nothing, so that all keys of a family
have the same number of parts. -/
def key : Query → Key
  | findings f p => ⟨.findings, findingParts f ++ listParts p⟩
  | finding id => .finding id
  | findingsSummary r => ⟨.findingsSummary, [.ofText? r]⟩
  | findingsByDetector r limit => ⟨.findingsByDetector, [.ofText? r, .ofUInt32 limit]⟩
  | fixes f p => ⟨.fixes, fixParts f ++ listParts p⟩
  | fix id => .fix id
  | fixStats r => ⟨.fixStats, [.ofText? r]⟩
  | fixComments id => .fixComments id
  | dashboard r => ⟨.analyticsSummary, [.ofText? r]⟩
  | trends period r => ⟨.analyticsTrends, [.text (Label.name period), .ofText? r]⟩
  | healthScore r => ⟨.healthScore, [.ofText? r]⟩
  | repositories p => ⟨.repositories, listParts p⟩
  | repository id => .repository id
  | runStatus id => .analysisStatus id
  | runHistory r p => ⟨.analysisHistory, .text r :: listParts p⟩
  | subscription => .head .subscription
  | usage => .head .usage
  | invoices p => ⟨.invoices, listParts p⟩
  | assets f p => ⟨.marketplaceAssets, assetParts f ++ listParts p⟩
  | asset slug => ⟨.marketplaceAsset, [.text slug]⟩
  | installedAssets => .head .installedAssets

end Query

end CodeHealth
