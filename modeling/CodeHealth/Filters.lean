import CodeHealth.Analytics
import CodeHealth.Finding
import CodeHealth.Fix
import CodeHealth.Marketplace
import CodeHealth.Page
import CodeHealth.Service.Request

/-! Filters of the long lists, and the pairs that they and the page contribute to a query. -/
namespace CodeHealth

structure FindingFilters where
  severity : Option Severity := none
  detector : Option String := none
  status : Option TriageStatus := none
  category : Option String := none
  repositoryId : Option String := none
  analysisRunId : Option String := none
  search : Option String := none
  deriving DecidableEq, Inhabited

namespace FindingFilters

def isEmpty (f : FindingFilters) : Bool := f = {}

def pairs (f : FindingFilters) : Pairs :=
  .optional "severity" (f.severity.map Label.name) ++ .optional "detector" f.detector ++
    .optional "status" (f.status.map Label.name) ++ .optional "category" f.category ++
    .optional "repository_id" f.repositoryId ++ .optional "analysis_run_id" f.analysisRunId ++
    .optional "search" f.search

end FindingFilters

structure FixFilters where
  status : Option FixStatus := none
  confidence : Option Confidence := none
  repositoryId : Option String := none
  findingId : Option String := none
  search : Option String := none
  deriving DecidableEq, Inhabited

def FixFilters.pairs (f : FixFilters) : Pairs :=
  .optional "status" (f.status.map Label.name) ++
    .optional "confidence" (f.confidence.map Label.name) ++
    .optional "repository_id" f.repositoryId ++ .optional "finding_id" f.findingId ++
    .optional "search" f.search

structure AssetFilters where
  kind : Option AssetKind := none
  search : Option String := none
  verifiedOnly : Bool := false
  deriving DecidableEq, Inhabited

def AssetFilters.pairs (f : AssetFilters) : Pairs :=
  .optional "asset_type" (f.kind.map Label.name) ++ .optional "search" f.search ++
    if f.verifiedOnly then [("verified", "true")] else []

/-- The direction counts only where a field to sort by is given. -/
def ListParams.pairs (p : ListParams) : Pairs :=
  [("page", toString p.page.toNat), ("page_size", toString p.pageSize.toNat)] ++
    match p.sortBy with
    | some field => [("sort_by", field), ("sort_direction", Label.name p.direction)]
    | none => []

end CodeHealth
