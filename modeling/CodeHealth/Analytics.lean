import CodeHealth.Json.Shape

/-! Figures over time: dashboard counters, daily counts by severity, and the health score with its
letter grade. -/
namespace CodeHealth

structure Dashboard where
  totalFindings : UInt64
  critical : UInt64
  high : UInt64
  medium : UInt64
  low : UInt64
  info : UInt64
  openFindings : UInt64
  resolvedFindings : UInt64
  fixesPending : UInt64
  fixesApproved : UInt64
  fixesApplied : UInt64
  repositories : UInt64
  deriving DecidableEq

def Dashboard.shape : Shape Dashboard :=
  .record
    (.cons "total_findings" .uint64 (some 0) <|
    .cons "critical" .uint64 (some 0) <|
    .cons "high" .uint64 (some 0) <|
    .cons "medium" .uint64 (some 0) <|
    .cons "low" .uint64 (some 0) <|
    .cons "info" .uint64 (some 0) <|
    .cons "open_findings" .uint64 (some 0) <|
    .cons "resolved_findings" .uint64 (some 0) <|
    .cons "fixes_pending" .uint64 (some 0) <|
    .cons "fixes_approved" .uint64 (some 0) <|
    .cons "fixes_applied" .uint64 (some 0) <|
    .cons "repositories" .uint64 (some 0) .nil)
    { fields := fun v => (v.totalFindings, v.critical, v.high, v.medium, v.low, v.info,
        v.openFindings, v.resolvedFindings, v.fixesPending, v.fixesApproved, v.fixesApplied,
        v.repositories, ())
      make := fun (a, b, c, d, e, f, g, h, i, j, k, l, ()) => ⟨a, b, c, d, e, f, g, h, i, j, k, l⟩
      make_fields := fun _ => rfl
      fields_make := fun _ => rfl }

/-- The window that a trend covers. -/
inductive Period where
  | week
  | month
  | quarter
  deriving DecidableEq

namespace Period

instance : Spelling Period where
  all := [week, month, quarter]
  name
    | week => "7d"
    | month => "30d"
    | quarter => "90d"
  mem_all a := by cases a <;> simp
  name_injective a b h := by cases a <;> cases b <;> simp_all
  kind := "period"
  hint := " (use 7d, 30d or 90d)"
  synonyms := [("week", week), ("month", month), ("quarter", quarter)]

end Period

/-- The findings of one day by severity. -/
structure TrendPoint where
  date : String
  critical : UInt64
  high : UInt64
  medium : UInt64
  low : UInt64
  info : UInt64
  total : UInt64
  deriving DecidableEq

def TrendPoint.shape : Shape TrendPoint :=
  .record
    (.cons "date" .text (some "") <|
    .cons "critical" .uint64 (some 0) <|
    .cons "high" .uint64 (some 0) <|
    .cons "medium" .uint64 (some 0) <|
    .cons "low" .uint64 (some 0) <|
    .cons "info" .uint64 (some 0) <|
    .cons "total" .uint64 (some 0) .nil)
    { fields := fun v => (v.date, v.critical, v.high, v.medium, v.low, v.info, v.total, ())
      make := fun (a, b, c, d, e, f, g, ()) => ⟨a, b, c, d, e, f, g⟩
      make_fields := fun _ => rfl
      fields_make := fun _ => rfl }

structure HealthScore where
  score : Binary64
  grade : Option String
  structureScore : Option Binary64
  qualityScore : Option Binary64
  architectureScore : Option Binary64
  trend : Option Binary64
  deriving DecidableEq

namespace HealthScore

def shape : Shape HealthScore :=
  .record
    (.cons "score" .real none <|
    .cons "grade" (.option .text) (some none) <|
    .cons "structure_score" (.option .real) (some none) <|
    .cons "quality_score" (.option .real) (some none) <|
    .cons "architecture_score" (.option .real) (some none) <|
    .cons "trend" (.option .real) (some none) .nil)
    { fields := fun v =>
        (v.score, v.grade, v.structureScore, v.qualityScore, v.architectureScore, v.trend, ())
      make := fun (a, b, c, d, e, f, ()) => ⟨a, b, c, d, e, f⟩
      make_fields := fun _ => rfl
      fields_make := fun _ => rfl }

/-- The least score of each letter grade. -/
def grades : List (Nat × String) :=
  [(97, "A+"), (93, "A"), (90, "A-"), (87, "B+"), (83, "B"), (80, "B-"), (77, "C+"), (73, "C"),
    (70, "C-"), (67, "D+"), (63, "D"), (60, "D-")]

def gradeOf (score : Binary64) : String :=
  match grades.find? fun g => score.atLeast g.1 with
  | some g => g.2
  | none => "F"

/-- The grade that was sent, or the one that the score deserves. -/
def letter (h : HealthScore) : String := h.grade.getD (gradeOf h.score)

end HealthScore

end CodeHealth
