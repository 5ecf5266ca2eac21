import CodeHealth.Analytics
import CodeHealth.Billing
import CodeHealth.Finding
import CodeHealth.Fix
import CodeHealth.Marketplace
import CodeHealth.Page
import CodeHealth.Proofs.Json.RoundTrip
import CodeHealth.Repository
import CodeHealth.Settings.Preferences
import Mathlib

/-! All types of payloads, alone, in lists and on pages. Main statement: a payload comes back from
each of the three forms in which it is written, the plain one in which answers are kept and the two
texts. -/

namespace CodeHealth

/-- The types of payloads. -/
inductive Payload where
  | finding
  | severityCounts
  | codeChange
  | fix
  | fixStats
  | fixComment
  | preview
  | batchResult
  | bulkUpdate
  | detectorCount
  | dashboard
  | trendPoint
  | healthScore
  | repository
  | run
  | subscription
  | usage
  | invoice
  | redirect
  | asset
  | installedAsset
  | preferences

namespace Payload

abbrev Value : Payload → Type
  | finding => Finding
  | severityCounts => SeverityCounts
  | codeChange => CodeChange
  | fix => Fix
  | fixStats => FixStats
  | fixComment => FixComment
  | preview => Preview
  | batchResult => BatchResult
  | bulkUpdate => BulkUpdate
  | detectorCount => DetectorCount
  | dashboard => Dashboard
  | trendPoint => TrendPoint
  | healthScore => HealthScore
  | repository => Repository
  | run => Run
  | subscription => Subscription
  | usage => Usage
  | invoice => Invoice
  | redirect => Redirect
  | asset => Asset
  | installedAsset => InstalledAsset
  | preferences => Preferences

def shape : (p : Payload) → Shape p.Value
  | finding => Finding.shape
  | severityCounts => SeverityCounts.shape
  | codeChange => CodeChange.shape
  | fix => Fix.shape
  | fixStats => FixStats.shape
  | fixComment => FixComment.shape
  | preview => Preview.shape
  | batchResult => BatchResult.shape
  | bulkUpdate => BulkUpdate.shape
  | detectorCount => DetectorCount.shape
  | dashboard => Dashboard.shape
  | trendPoint => TrendPoint.shape
  | healthScore => HealthScore.shape
  | repository => Repository.shape
  | run => Run.shape
  | subscription => Subscription.shape
  | usage => Usage.shape
  | invoice => Invoice.shape
  | redirect => Redirect.shape
  | asset => Asset.shape
  | installedAsset => InstalledAsset.shape
  | preferences => Preferences.shape

/-- Shapes of what a response or a file holds: one payload, or lists and pages of them. -/
inductive Carries : {α : Type} → Shape α → Prop where
  | alone (p : Payload) : Carries p.shape
  | list {α : Type} {s : Shape α} : Carries s → Carries (.list s)
  | page {α : Type} {s : Shape α} : Carries s → Carries (Page.shape s)

theorem isRegular_shape (p : Payload) : p.shape.isReal32 = false ∧ p.shape.isRegular := by
  cases p <;> exact ⟨rfl, rfl⟩

theorem isRegular_page {α : Type} {s : Shape α} (hreal : s.isReal32 = false) (hs : s.isRegular) :
    (Page.shape s).isRegular := by
  have hlist : (Shape.list s).isRegular := (Shape.isRegular_list s).2 ⟨hreal, hs⟩
  refine (Shape.isRegular_record _ _).2 ⟨by simp [Shape.Fields.names], ?_⟩
  exact (Shape.Fields.isRegular_cons _ _ _ _).2 ⟨⟨rfl, hlist⟩, by simp, rfl⟩

theorem Carries.isRegular {α : Type} {s : Shape α} (h : Carries s) :
    s.isReal32 = false ∧ s.isRegular := by
  induction h with
  | alone p => exact isRegular_shape p
  | list _ ih => exact ⟨rfl, (Shape.isRegular_list _).2 ih⟩
  | page _ ih => exact ⟨rfl, isRegular_page ih.1 ih.2⟩

/-! ### Whole numbers fit 64 bits -/

theorem fitsWord_uint8 : Shape.uint8.FitsWord := by
  intro a
  have := a.toNat_lt
  simp only [WholeRange.uint8]
  omega

theorem fitsWord_uint32 : Shape.uint32.FitsWord := by
  intro a
  have := a.toNat_lt
  simp only [WholeRange.uint32]
  omega

theorem fitsWord_uint64 : Shape.uint64.FitsWord := by
  intro a
  have := a.toNat_lt
  simp only [WholeRange.uint64]
  omega

theorem fitsWord_int64 : Shape.int64.FitsWord := by
  intro a
  have hlow := a.le_toInt
  have hhigh := a.toInt_lt
  simp only [WholeRange.int64]
  omega

open Shape (FitsWord) in
theorem fitsWord_shape (p : Payload) : p.shape.FitsWord := by
  cases p <;>
    simp only [shape, Finding.shape, Finding.fields, SeverityCounts.shape, CodeChange.shape,
      Fix.shape, FixStats.shape, FixComment.shape, PreviewCheck.shape, Preview.shape,
      BatchResult.shape, BulkUpdate.shape, DetectorCount.shape, Dashboard.shape, TrendPoint.shape,
      HealthScore.shape, Repository.shape, Run.shape, Subscription.shape, Usage.shape,
      Invoice.shape, Redirect.shape, Asset.shape, InstalledAsset.shape, Preferences.shape,
      Severity.shape, TriageStatus.shape, Confidence.shape, FixStatus.shape, RunStatus.shape,
      Plan.shape, SubscriptionStatus.shape, AssetKind.shape, FitsWord, Shape.Fields.FitsWord,
      fitsWord_uint8, fitsWord_uint32, fitsWord_uint64, fitsWord_int64, and_self]

theorem fitsWord_page {α : Type} {s : Shape α} (h : s.FitsWord) : (Page.shape s).FitsWord :=
  ⟨h, fitsWord_uint64, fitsWord_uint32, fitsWord_uint32, trivial, trivial⟩

theorem Carries.fitsWord {α : Type} {s : Shape α} (h : Carries s) : s.FitsWord := by
  induction h with
  | alone p => exact fitsWord_shape p
  | list _ ih => exact ih
  | page _ ih => exact fitsWord_page ih

/-! ### Payloads come back -/

/-- A payload with finite numbers comes back from the plain form in which it is kept, and, if each
of its binary numbers is read back from its own text, from its compact text and from the one over
several lines. -/
theorem comes_back {α : Type} {s : Shape α} (hs : Carries s) {a : α} (h : s.Finite a) :
    s.ofJson (s.toPlain a) = some a ∧ (s.ReadsBack a →
      s.read (s.encode a).compact = some a ∧ s.read (s.encode a).pretty = some a) :=
  ⟨Shape.ofJson_toPlain_of_finite hs.isRegular.2 h,
    fun hback => Shape.read_encode hs.isRegular.2 hs.fitsWord hback⟩

/-- An asset rated 4.7, whose names hold quotes and control characters, and which was installed in a
leap second of the year 12016. -/
def ratedAsset : InstalledAsset where
  asset :=
    { id := "a\"1\"", slug := "\\", name := "né\u0000\n", kind := .command, description := ""
      publisher := none, version := some "", rating := some ⟨0x40966666⟩
      installCount := 0xffffffffffffffff, isInstalled := true, isVerified := false
      priceCents := 0 }
  installedVersion := none
  installedAt := Instant.ofClock? ⟨12016, 12, 31, 23, 59, 60, 5000⟩

theorem comes_back_ratedAsset :
    let s := Page.shape InstalledAsset.shape
    let page : Page InstalledAsset := ⟨[ratedAsset], 1, 1, 20, false⟩
    Carries s ∧ s.Finite page ∧ s.ReadsBack page ∧ s.ofJson (s.toPlain page) = some page ∧
      s.read (s.encode page).compact = some page ∧ s.read (s.encode page).pretty = some page := by
  intro s page
  have hs : Carries s := .page (.alone .installedAsset)
  have hfinite : s.Finite page := by
    have : Binary32.isFinite ⟨0x40966666⟩ := by decide
    simpa [s, page, Page.shape, InstalledAsset.shape, Asset.shape, AssetKind.shape, Shape.uint32,
      Shape.uint64, ratedAsset, Shape.Finite, Shape.Fields.Finite] using this
  have hback : s.ReadsBack page := by
    have : Binary32.ReadsBack ⟨0x40966666⟩ := by decide +kernel
    simpa [s, page, Page.shape, InstalledAsset.shape, Asset.shape, AssetKind.shape, Shape.uint32,
      Shape.uint64, ratedAsset, Shape.ReadsBack, Shape.Fields.ReadsBack] using this
  obtain ⟨hplain, htexts⟩ := comes_back hs hfinite
  exact ⟨hs, hfinite, hback, hplain, htexts hback⟩

end Payload

end CodeHealth
