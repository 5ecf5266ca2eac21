import CodeHealth.Cache.Store

/-! Events and what they make old. An event reaches whole families of keys, and the keys of the
one thing that it happened to. -/
namespace CodeHealth

inductive Event where
  | fixApproved
  | fixRejected
  | fixApplied
  | fixesBatchUpdated
  | fixPreviewed
  | fixCommentAdded
  | findingsStatusUpdated
  | analysisStarted
  | analysisCompleted
  | repositoryConnected
  | repositoryRemoved
  | subscriptionChanged
  | assetInstalled
  | assetUninstalled
  deriving DecidableEq

/-- An event that none is named by. -/
structure UnknownEvent where
  name : String

def UnknownEvent.message (e : UnknownEvent) : String := "unknown event '" ++ e.name ++ "'"

namespace Event

instance : Label Event where
  all := [fixApproved, fixRejected, fixApplied, fixesBatchUpdated, fixPreviewed, fixCommentAdded,
    findingsStatusUpdated, analysisStarted, analysisCompleted, repositoryConnected,
    repositoryRemoved, subscriptionChanged, assetInstalled, assetUninstalled]
  name
    | fixApproved => "fix-approved"
    | fixRejected => "fix-rejected"
    | fixApplied => "fix-applied"
    | fixesBatchUpdated => "fixes-batch-updated"
    | fixPreviewed => "fix-previewed"
    | fixCommentAdded => "fix-comment-added"
    | findingsStatusUpdated => "findings-status-updated"
    | analysisStarted => "analysis-started"
    | analysisCompleted => "analysis-completed"
    | repositoryConnected => "repository-connected"
    | repositoryRemoved => "repository-removed"
    | subscriptionChanged => "subscription-changed"
    | assetInstalled => "asset-installed"
    | assetUninstalled => "asset-uninstalled"
  mem_all a := by cases a <;> simp
  name_injective a b h := by cases a <;> cases b <;> first | rfl | simp at h

def read (s : String) : Except UnknownEvent Event :=
  match Label.find? s with
  | some e => .ok e
  | none => .error ⟨s⟩

/-- The families that an event makes old as a whole. -/
def families : Event → List Family
  | fixApproved | fixRejected => [.fixes, .fixStats, .findingsSummary, .analyticsSummary]
  | fixApplied => [.fixes, .fixStats, .findings, .finding, .findingsSummary, .findingsByDetector,
      .analyticsSummary, .analyticsTrends, .healthScore]
  | fixesBatchUpdated => [.fixes, .fix, .fixStats, .findingsSummary, .analyticsSummary]
  | fixPreviewed | fixCommentAdded => []
  | findingsStatusUpdated => [.findings, .finding, .findingsSummary, .findingsByDetector,
      .analyticsSummary, .analyticsTrends, .healthScore]
  | analysisStarted => [.analysisHistory, .repositories, .usage]
  | analysisCompleted => [.findings, .finding, .findingsSummary, .findingsByDetector, .fixes,
      .fixStats, .analyticsSummary, .analyticsTrends, .healthScore, .repositories, .repository,
      .analysisHistory]
  | repositoryConnected => [.repositories, .analyticsSummary, .usage]
  | repositoryRemoved => [.repositories, .repository, .findings, .findingsSummary,
      .findingsByDetector, .fixes, .fixStats, .analyticsSummary, .analyticsTrends, .healthScore,
      .usage]
  | subscriptionChanged => [.subscription, .usage, .invoices]
  | assetInstalled | assetUninstalled => [.marketplaceAssets, .marketplaceAsset, .installedAssets]

/-- The keys of the thing that the event happened to. -/
def entityKeys (id : String) : Event → List Key
  | fixApproved | fixRejected | fixApplied => [.fix id]
  | fixPreviewed => [.fixPreview id, .fix id]
  | fixCommentAdded => [.fixComments id, .fix id]
  | findingsStatusUpdated => [.finding id]
  | analysisStarted => [.repository id]
  | analysisCompleted => [.analysisStatus id]
  | _ => []

/-- Whether the event reaches nothing but the keys of its thing. -/
def isEntityScoped (e : Event) : Bool := e.families.isEmpty

/-- The keys of the thing, if it is given. -/
def keysOf (e : Event) : Option String → List Key
  | none => []
  | some id => e.entityKeys id

/-- Whether the event, happening to the given thing, makes `k` old. -/
def reaches (e : Event) (id : Option String) (k : Key) : Bool :=
  e.families.contains k.family || (e.keysOf id).contains k

end Event

/-- What an event has touched. -/
structure Invalidation where
  event : Event
  families : List Family
  entityKeys : List Key
  marked : Nat

namespace Cache

/-- Marks one entry stale, and counts it if it is there. -/
def invalidateKey (c : Cache) (k : Key) : Cache × Nat :=
  (c.invalidate (· = k), if c.contains k then 1 else 0)

/-- Marks the keys of `ks` that lie outside the families, which have been marked already. -/
def invalidateKeys (families : List Family) (c : Cache) : List Key → Cache × Nat
  | [] => (c, 0)
  | k :: ks =>
    if families.contains k.family then invalidateKeys families c ks
    else
      let (c, n) := c.invalidateKey k
      let (c, m) := invalidateKeys families c ks
      (c, n + m)

def dispatch (c : Cache) (e : Event) (id : Option String) : Cache × Invalidation :=
  let hit (k : Key) : Bool := e.families.contains k.family
  let (c', n) := invalidateKeys e.families (c.invalidate hit) (e.keysOf id)
  (c', ⟨e, e.families, e.keysOf id, c.countKeys hit + n⟩)

end Cache

end CodeHealth
