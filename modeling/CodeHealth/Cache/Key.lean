import CodeHealth.Json.Writer
import CodeHealth.Label

/-! Keys under which answers are kept: a family with a fixed number of parts. Keys are ordered by
family, then by their parts one after the other. -/
namespace CodeHealth

/-- The families of answers. No two kinds of answers share one. -/
inductive Family where
  | findings
  | finding
  | findingsSummary
  | findingsByDetector
  | fixes
  | fix
  | fixStats
  | fixComments
  | fixPreview
  | analyticsSummary
  | analyticsTrends
  | healthScore
  | repositories
  | repository
  | analysisStatus
  | analysisHistory
  | subscription
  | usage
  | invoices
  | marketplaceAssets
  | marketplaceAsset
  | installedAssets
  deriving DecidableEq

namespace Family

instance : Label Family where
  all := [findings, finding, findingsSummary, findingsByDetector, fixes, fix, fixStats,
    fixComments, fixPreview, analyticsSummary, analyticsTrends, healthScore, repositories,
    repository, analysisStatus, analysisHistory, subscription, usage, invoices, marketplaceAssets,
    marketplaceAsset, installedAssets]
  name
    | findings => "findings"
    | finding => "finding"
    | findingsSummary => "findings-summary"
    | findingsByDetector => "findings-by-detector"
    | fixes => "fixes"
    | fix => "fix"
    | fixStats => "fix-stats"
    | fixComments => "fix-comments"
    | fixPreview => "fix-preview"
    | analyticsSummary => "analytics-summary"
    | analyticsTrends => "analytics-trends"
    | healthScore => "health-score"
    | repositories => "repositories"
    | repository => "repository"
    | analysisStatus => "analysis-status"
    | analysisHistory => "analysis-history"
    | subscription => "subscription"
    | usage => "usage"
    | invoices => "invoices"
    | marketplaceAssets => "marketplace-assets"
    | marketplaceAsset => "marketplace-asset"
    | installedAssets => "installed-assets"
  mem_all a := by cases a <;> simp
  name_injective a b h := by cases a <;> cases b <;> first | rfl | simp at h

/-- The place of a family in the list of all. -/
def rank (f : Family) : Nat := (Label.all : List Family).idxOf f

end Family

inductive KeyPart where
  | null
  | flag (b : Bool)
  | number (i : Int64)
  | text (s : String)
  deriving DecidableEq

namespace KeyPart

def ofText? : Option String → KeyPart
  | none => null
  | some s => text s

def ofUInt32 (n : UInt32) : KeyPart := number (Int64.ofNat n.toNat)

/-- A word of 64 bits taken as a signed number. -/
def ofUInt64 (n : UInt64) : KeyPart := number n.toInt64

def json : KeyPart → Json
  | null => .null
  | flag b => .bool b
  | number i => .whole i.toInt
  | text s => .text s

/-- Nothing comes first, then flags, numbers and texts; texts by their bytes. -/
def order : KeyPart → KeyPart → Ordering
  | null, null => .eq
  | null, _ => .lt
  | flag _, null => .gt
  | flag a, flag b => compare a.toNat b.toNat
  | flag _, _ => .lt
  | number _, null => .gt
  | number _, flag _ => .gt
  | number a, number b => compare a.toInt b.toInt
  | number _, text _ => .lt
  | text a, text b => Text.order a b
  | text _, _ => .gt

/-- Part by part; a list that has run out comes first. -/
def orderAll : List KeyPart → List KeyPart → Ordering
  | [], [] => .eq
  | [], _ :: _ => .lt
  | _ :: _, [] => .gt
  | a :: as, b :: bs => (order a b).then (orderAll as bs)

end KeyPart

structure Key where
  family : Family
  parts : List KeyPart
  deriving DecidableEq

namespace Key

/-- The key of a family that has no parts. -/
def head (f : Family) : Key := ⟨f, []⟩

def json (k : Key) : Json := .list (.text (Label.name k.family) :: k.parts.map KeyPart.json)

def text (k : Key) : String := k.json.compact

def order (a b : Key) : Ordering :=
  (compare a.family.rank b.family.rank).then (KeyPart.orderAll a.parts b.parts)

def sort (ks : List Key) : List Key := ks.mergeSort fun a b => order a b != .gt

/-! ### The key of one thing -/

def finding (id : String) : Key := ⟨.finding, [.text id]⟩

def fix (id : String) : Key := ⟨.fix, [.text id]⟩

def fixComments (id : String) : Key := ⟨.fixComments, [.text id]⟩

def fixPreview (id : String) : Key := ⟨.fixPreview, [.text id]⟩

def repository (id : String) : Key := ⟨.repository, [.text id]⟩

def analysisStatus (runId : String) : Key := ⟨.analysisStatus, [.text runId]⟩

end Key

end CodeHealth
