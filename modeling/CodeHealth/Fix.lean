import CodeHealth.Json.Shape
import CodeHealth.Text.Lines

/-! Proposed fixes: code changes with a review state, their comments, and trial runs of them. -/
namespace CodeHealth

inductive Confidence where
  | high
  | medium
  | low
  deriving DecidableEq

namespace Confidence

instance : Spelling Confidence where
  all := [high, medium, low]
  name
    | high => "high"
    | medium => "medium"
    | low => "low"
  mem_all a := by cases a <;> simp
  name_injective a b h := by cases a <;> cases b <;> simp_all
  kind := "confidence"

def shape : Shape Confidence := .choice inferInstance

end Confidence

/-- The state of a fix in its review. -/
inductive FixStatus where
  | pending
  | approved
  | rejected
  | applied
  | failed
  | stale
  deriving DecidableEq

namespace FixStatus

instance : Spelling FixStatus where
  all := [pending, approved, rejected, applied, failed, stale]
  name
    | pending => "pending"
    | approved => "approved"
    | rejected => "rejected"
    | applied => "applied"
    | failed => "failed"
    | stale => "stale"
  mem_all a := by cases a <;> simp
  name_injective a b h := by cases a <;> cases b <;> simp_all
  kind := "fix status"

def shape : Shape FixStatus := .choice inferInstance

end FixStatus

/-- The replacement of some lines of one file. -/
structure CodeChange where
  filePath : String
  oldCode : String
  newCode : String
  startLine : UInt32
  endLine : UInt32
  description : String
  deriving DecidableEq

def CodeChange.shape : Shape CodeChange :=
  .record
    (.cons "file_path" .text none <|
    .cons "original_code" .text (some "") <|
    .cons "fixed_code" .text (some "") <|
    .cons "start_line" .uint32 (some 0) <|
    .cons "end_line" .uint32 (some 0) <|
    .cons "description" .text (some "") .nil)
    { fields := fun v =>
        (v.filePath, v.oldCode, v.newCode, v.startLine, v.endLine, v.description, ())
      make := fun (a, b, c, d, e, f, ()) => ⟨a, b, c, d, e, f⟩
      make_fields := fun _ => rfl
      fields_make := fun _ => rfl }

structure Fix where
  id : String
  findingIds : List String
  repositoryId : Option String
  fixType : Option String
  confidence : Confidence
  status : FixStatus
  title : String
  description : String
  rationale : String
  changes : List CodeChange
  createdAt : Option Instant
  deriving DecidableEq

def Fix.shape : Shape Fix :=
  .record
    (.cons "id" .text none <|
    .cons "finding_ids" (.list .text) (some []) <|
    .cons "repository_id" (.option .text) (some none) <|
    .cons "fix_type" (.option .text) (some none) <|
    .cons "confidence" Confidence.shape none <|
    .cons "status" FixStatus.shape (some .pending) <|
    .cons "title" .text (some "") <|
    .cons "description" .text (some "") <|
    .cons "rationale" .text (some "") <|
    .cons "changes" (.list CodeChange.shape) (some []) <|
    .cons "created_at" (.option .instant) (some none) .nil)
    { fields := fun v => (v.id, v.findingIds, v.repositoryId, v.fixType, v.confidence, v.status,
        v.title, v.description, v.rationale, v.changes, v.createdAt, ())
      make := fun (a, b, c, d, e, f, g, h, i, j, k, ()) => ⟨a, b, c, d, e, f, g, h, i, j, k⟩
      make_fields := fun _ => rfl
      fields_make := fun _ => rfl }

/-! ### The changes of a fix as a diff -/

namespace CodeChange

/-- The number of lines that the change replaces by its line numbers, kept within 32 bits. -/
def span (c : CodeChange) : Nat := min (c.endLine.toNat + 1) (UInt32.size - 1) - c.startLine.toNat

def header (c : CodeChange) : String :=
  "--- a/" ++ c.filePath ++ "\n+++ b/" ++ c.filePath ++ "\n@@ -" ++
    toString c.startLine.toNat ++ "," ++ toString c.span ++ " +" ++ toString c.startLine.toNat ++
    "," ++ toString (Text.lines c.newCode).length ++ " @@\n"

def marked (mark : String) (code : String) : String :=
  String.join ((Text.lines code).map fun l => mark ++ l ++ "\n")

def diff (c : CodeChange) : String :=
  c.header ++ marked "-" c.oldCode ++ marked "+" c.newCode ++ "\n"

end CodeChange

def Fix.diff (f : Fix) : String := String.join (f.changes.map CodeChange.diff)

/-! ### Around a fix -/

/-- How many fixes there are in each state of review. -/
structure FixStats where
  total : UInt64
  pending : UInt64
  approved : UInt64
  rejected : UInt64
  applied : UInt64
  failed : UInt64
  deriving DecidableEq

def FixStats.shape : Shape FixStats :=
  .record
    (.cons "total" .uint64 (some 0) <|
    .cons "pending" .uint64 (some 0) <|
    .cons "approved" .uint64 (some 0) <|
    .cons "rejected" .uint64 (some 0) <|
    .cons "applied" .uint64 (some 0) <|
    .cons "failed" .uint64 (some 0) .nil)
    { fields := fun v => (v.total, v.pending, v.approved, v.rejected, v.applied, v.failed, ())
      make := fun (a, b, c, d, e, f, ()) => ⟨a, b, c, d, e, f⟩
      make_fields := fun _ => rfl
      fields_make := fun _ => rfl }

structure FixComment where
  id : String
  fixId : String
  author : Option String
  content : String
  createdAt : Option Instant
  deriving DecidableEq

def FixComment.shape : Shape FixComment :=
  .record
    (.cons "id" .text none <|
    .cons "fix_id" .text (some "") <|
    .cons "author" (.option .text) (some none) <|
    .cons "content" .text none <|
    .cons "created_at" (.option .instant) (some none) .nil)
    { fields := fun v => (v.id, v.fixId, v.author, v.content, v.createdAt, ())
      make := fun (a, b, c, d, e, ()) => ⟨a, b, c, d, e⟩
      make_fields := fun _ => rfl
      fields_make := fun _ => rfl }

structure PreviewCheck where
  name : String
  passed : Bool
  message : Option String
  deriving DecidableEq

def PreviewCheck.shape : Shape PreviewCheck :=
  .record
    (.cons "name" .text none <|
    .cons "passed" .flag none <|
    .cons "message" (.option .text) (some none) .nil)
    { fields := fun v => (v.name, v.passed, v.message, ())
      make := fun (a, b, c, ()) => ⟨a, b, c⟩
      make_fields := fun _ => rfl
      fields_make := fun _ => rfl }

/-- The outcome of a trial run of a fix. -/
structure Preview where
  success : Bool
  checks : List PreviewCheck
  stdout : Option String
  stderr : Option String
  durationMs : Option UInt64
  deriving DecidableEq

namespace Preview

def shape : Shape Preview :=
  .record
    (.cons "success" .flag (some false) <|
    .cons "checks" (.list PreviewCheck.shape) (some []) <|
    .cons "stdout" (.option .text) (some none) <|
    .cons "stderr" (.option .text) (some none) <|
    .cons "duration_ms" (.option .uint64) (some none) .nil)
    { fields := fun v => (v.success, v.checks, v.stdout, v.stderr, v.durationMs, ())
      make := fun (a, b, c, d, e, ()) => ⟨a, b, c, d, e⟩
      make_fields := fun _ => rfl
      fields_make := fun _ => rfl }

def failedChecks (p : Preview) : List PreviewCheck := p.checks.filter (!·.passed)

end Preview

/-- The outcome of a review of many fixes at once. -/
structure BatchResult where
  processed : UInt64
  failed : List String
  deriving DecidableEq

def BatchResult.shape : Shape BatchResult :=
  .record (.cons "processed" .uint64 (some 0) <| .cons "failed" (.list .text) (some []) .nil)
    { fields := fun v => (v.processed, v.failed, ())
      make := fun (a, b, ()) => ⟨a, b⟩
      make_fields := fun _ => rfl
      fields_make := fun _ => rfl }

end CodeHealth
