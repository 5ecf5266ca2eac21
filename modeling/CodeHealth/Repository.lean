import CodeHealth.Json.Shape

/-! Connected repositories and the runs of their analysis. -/
namespace CodeHealth

structure Repository where
  id : String
  fullName : String
  defaultBranch : Option String
  isActive : Bool
  healthScore : Option Binary64
  findingsCount : UInt64
  lastAnalyzedAt : Option Instant
  deriving DecidableEq

def Repository.shape : Shape Repository :=
  .record
    (.cons "id" .text none <|
    .cons "full_name" .text none <|
    .cons "default_branch" (.option .text) (some none) <|
    .cons "is_active" .flag (some true) <|
    .cons "health_score" (.option .real) (some none) <|
    .cons "findings_count" .uint64 (some 0) <|
    .cons "last_analyzed_at" (.option .instant) (some none) .nil)
    { fields := fun v => (v.id, v.fullName, v.defaultBranch, v.isActive, v.healthScore,
        v.findingsCount, v.lastAnalyzedAt, ())
      make := fun (a, b, c, d, e, f, g, ()) => ⟨a, b, c, d, e, f, g⟩
      make_fields := fun _ => rfl
      fields_make := fun _ => rfl }

inductive RunStatus where
  | queued
  | running
  | completed
  | failed
  deriving DecidableEq

namespace RunStatus

instance : Label RunStatus where
  all := [queued, running, completed, failed]
  name
    | queued => "queued"
    | running => "running"
    | completed => "completed"
    | failed => "failed"
  mem_all a := by cases a <;> simp
  name_injective a b h := by cases a <;> cases b <;> simp_all

def shape : Shape RunStatus := .choice inferInstance

/-- A run that is completed or failed never changes again. -/
def isTerminal (s : RunStatus) : Bool := s == .completed || s == .failed

end RunStatus

/-- One run of the analysis. -/
structure Run where
  id : String
  repositoryId : String
  status : RunStatus
  progressPercent : UInt8
  currentStep : Option String
  findingsCount : Option UInt64
  healthScore : Option Binary64
  errorMessage : Option String
  startedAt : Option Instant
  completedAt : Option Instant
  deriving DecidableEq

def Run.shape : Shape Run :=
  .record
    (.cons "id" .text none <|
    .cons "repository_id" .text (some "") <|
    .cons "status" RunStatus.shape (some .queued) <|
    .cons "progress_percent" .uint8 (some 0) <|
    .cons "current_step" (.option .text) (some none) <|
    .cons "findings_count" (.option .uint64) (some none) <|
    .cons "health_score" (.option .real) (some none) <|
    .cons "error_message" (.option .text) (some none) <|
    .cons "started_at" (.option .instant) (some none) <|
    .cons "completed_at" (.option .instant) (some none) .nil)
    { fields := fun v => (v.id, v.repositoryId, v.status, v.progressPercent, v.currentStep,
        v.findingsCount, v.healthScore, v.errorMessage, v.startedAt, v.completedAt, ())
      make := fun (a, b, c, d, e, f, g, h, i, j, ()) => ⟨a, b, c, d, e, f, g, h, i, j⟩
      make_fields := fun _ => rfl
      fields_make := fun _ => rfl }

end CodeHealth
