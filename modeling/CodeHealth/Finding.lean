import CodeHealth.Json.Shape

/-! Findings: problems that the analysis has found in code, with their severity and the state of
their triage. -/
namespace CodeHealth

/-- Severities in ascending order. -/
inductive Severity where
  | info
  | low
  | medium
  | high
  | critical
  deriving DecidableEq, Inhabited

namespace Severity

def rank : Severity → Nat
  | info => 0
  | low => 1
  | medium => 2
  | high => 3
  | critical => 4

instance : Spelling Severity where
  all := [info, low, medium, high, critical]
  name
    | info => "info"
    | low => "low"
    | medium => "medium"
    | high => "high"
    | critical => "critical"
  mem_all a := by cases a <;> simp
  name_injective a b h := by cases a <;> cases b <;> simp_all
  kind := "severity"

def shape : Shape Severity := .choice inferInstance

/-- Severities from mild to grave; equal ones keep their order. -/
def sort (xs : List Severity) : List Severity := xs.mergeSort fun a b => a.rank ≤ b.rank

/-- The gravest severity. -/
def gravest? (xs : List Severity) : Option Severity := (sort xs).getLast?

end Severity

/-- The state of a finding's triage. -/
inductive TriageStatus where
  | open_
  | acknowledged
  | inProgress
  | resolved
  | wontfix
  | falsePositive
  deriving DecidableEq, Inhabited

namespace TriageStatus

instance : Spelling TriageStatus where
  all := [open_, acknowledged, inProgress, resolved, wontfix, falsePositive]
  name
    | open_ => "open"
    | acknowledged => "acknowledged"
    | inProgress => "in_progress"
    | resolved => "resolved"
    | wontfix => "wontfix"
    | falsePositive => "false_positive"
  mem_all a := by cases a <;> simp
  name_injective a b h := by cases a <;> cases b <;> simp_all
  kind := "finding status"
  adjust c := if c = '-' then '_' else c

def shape : Shape TriageStatus := .choice inferInstance

end TriageStatus

structure Finding where
  id : String
  detector : String
  severity : Severity
  status : TriageStatus
  title : String
  description : String
  affectedFiles : List String
  lineStart : Option UInt32
  lineEnd : Option UInt32
  suggestedFix : Option String
  estimatedEffort : Option String
  category : Option String
  cweId : Option String
  whyItMatters : Option String
  repositoryId : Option String
  analysisRunId : Option String
  statusReason : Option String
  createdAt : Option Instant
  deriving DecidableEq

namespace Finding

def fields :=
  Fields.cons "id" .text (some "") <|
  .cons "detector" .text (some "") <|
  .cons "severity" Severity.shape (some .info) <|
  .cons "status" TriageStatus.shape (some .open_) <|
  .cons "title" .text (some "") <|
  .cons "description" .text (some "") <|
  .cons "affected_files" (.list .text) (some []) <|
  .cons "line_start" (.option .uint32) (some none) <|
  .cons "line_end" (.option .uint32) (some none) <|
  .cons "suggested_fix" (.option .text) (some none) <|
  .cons "estimated_effort" (.option .text) (some none) <|
  .cons "category" (.option .text) (some none) <|
  .cons "cwe_id" (.option .text) (some none) <|
  .cons "why_it_matters" (.option .text) (some none) <|
  .cons "repository_id" (.option .text) (some none) <|
  .cons "analysis_run_id" (.option .text) (some none) <|
  .cons "status_reason" (.option .text) (some none) <|
  .cons "created_at" (.option .instant) (some none) .nil

def shape : Shape Finding :=
  .record fields {
    fields := fun v => (v.id, v.detector, v.severity, v.status, v.title, v.description,
      v.affectedFiles, v.lineStart, v.lineEnd, v.suggestedFix, v.estimatedEffort, v.category,
      v.cweId, v.whyItMatters, v.repositoryId, v.analysisRunId, v.statusReason, v.createdAt, ())
    make := fun (a, b, c, d, e, f, g, h, i, j, k, l, m, n, o, p, q, r, ()) =>
      ⟨a, b, c, d, e, f, g, h, i, j, k, l, m, n, o, p, q, r⟩
    make_fields := fun _ => rfl
    fields_make := fun _ => rfl }

end Finding

/-- How many findings there are of each severity, and in all. -/
structure SeverityCounts where
  critical : UInt64
  high : UInt64
  medium : UInt64
  low : UInt64
  info : UInt64
  total : UInt64
  deriving DecidableEq

namespace SeverityCounts

def shape : Shape SeverityCounts :=
  .record
    (.cons "critical" .uint64 (some 0) <|
    .cons "high" .uint64 (some 0) <|
    .cons "medium" .uint64 (some 0) <|
    .cons "low" .uint64 (some 0) <|
    .cons "info" .uint64 (some 0) <|
    .cons "total" .uint64 (some 0) .nil)
    { fields := fun v => (v.critical, v.high, v.medium, v.low, v.info, v.total, ())
      make := fun (a, b, c, d, e, f, ()) => ⟨a, b, c, d, e, f⟩
      make_fields := fun _ => rfl
      fields_make := fun _ => rfl }

def count (v : SeverityCounts) : Severity → UInt64
  | .critical => v.critical
  | .high => v.high
  | .medium => v.medium
  | .low => v.low
  | .info => v.info

def ofFindings (fs : List Finding) : SeverityCounts :=
  let of (s : Severity) : UInt64 := (fs.countP (·.severity = s)).toUInt64
  ⟨of .critical, of .high, of .medium, of .low, of .info, fs.length.toUInt64⟩

end SeverityCounts

/-- How many findings one detector has made. -/
structure DetectorCount where
  detector : String
  count : UInt64
  deriving DecidableEq

def DetectorCount.shape : Shape DetectorCount :=
  .record (.cons "detector" .text none <| .cons "count" .uint64 none .nil)
    { fields := fun v => (v.detector, v.count, ())
      make := fun (a, b, ()) => ⟨a, b⟩
      make_fields := fun _ => rfl
      fields_make := fun _ => rfl }

/-- The outcome of a change of many findings at once. -/
structure BulkUpdate where
  updated : UInt64
  failed : List String
  deriving DecidableEq

def BulkUpdate.shape : Shape BulkUpdate :=
  .record (.cons "updated" .uint64 (some 0) <| .cons "failed" (.list .text) (some []) .nil)
    { fields := fun v => (v.updated, v.failed, ())
      make := fun (a, b, ()) => ⟨a, b⟩
      make_fields := fun _ => rfl
      fields_make := fun _ => rfl }

end CodeHealth
