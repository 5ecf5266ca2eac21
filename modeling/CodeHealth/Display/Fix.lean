import CodeHealth.Display.Parts
import CodeHealth.Fix
import CodeHealth.Page

/-! Proposed fixes on the terminal. -/
namespace CodeHealth.Display

open Terminal

/-- A confidence in a column of the given width. -/
def confidence (width : Nat) (c : Confidence) : Span :=
  let s := text (Text.padEnd width (Label.name c))
  match c with
  | .high => s.green
  | .medium => s.yellow
  | .low => s.red

def fixRow (f : Fix) : Line :=
  ["   ", (text f.id).dim, "  ", Label.name f.status, " ", confidence 7 f.confidence, " ",
    (text f.title).bold]

def fixes (p : Page Fix) (stats : FixStats) : List Line :=
  stack [
    [heading "🔧 Fix Proposals", [],
      ["   ", (number stats.pending.toNat).yellow.bold, " pending  ",
        (number stats.approved.toNat).cyan, " approved  ", (number stats.applied.toNat).green,
        " applied  ", (number stats.rejected.toNat).dim, " rejected"], []],
    if p.items.isEmpty then [[(text "No fixes match these filters.").green]]
    else p.items.map fixRow ++ nextPageApart p.page p.hasMore]

/-- A line of a diff in the colour of its kind. -/
def diffLine (l : String) : Line :=
  if l.startsWith "+++" || l.startsWith "---" then [(text l).bold]
  else if l.startsWith "+" then [(text l).green]
  else if l.startsWith "-" then [(text l).red]
  else if l.startsWith "@@" then [(text l).cyan]
  else [l]

def fix (f : Fix) : List Line :=
  stack [
    [[], [(text "🔧").bold, " ", (text f.title).bold], [], labelled "ID:" [f.id],
      labelled "Status:" [Label.name f.status], labelled "Confidence:" [confidence 0 f.confidence]],
    labelled? "Findings:"
      (if f.findingIds.isEmpty then none else some (", ".intercalate f.findingIds)),
    if f.description.isEmpty then [] else [[], ["   ", f.description]],
    paragraph? "💡 Rationale" (if f.rationale.isEmpty then none else some f.rationale),
    if f.changes.isEmpty then [] else [] :: (Text.lines f.diff).map diffLine]

def approved (f : Fix) : List Line := [["✅ Approved ", (text f.id).bold]]

def rejected (f : Fix) : List Line := [["🚫 Rejected ", (text f.id).bold]]

def applied (f : Fix) : List Line :=
  [["✅ Applied ", (text f.id).bold, " (", Label.name f.status, ")"]]

/-- The outcome of a review of `count` fixes. -/
def reviewed (verb : String) (count : Nat) (r : BatchResult) : List Line :=
  [verb, " ", (number r.processed.toNat).bold, " of ", number count, " fixes"] :: failures r.failed

def checkRow (c : PreviewCheck) : Line :=
  beside [
    ["   ", if c.passed then tick else cross, " ", c.name],
    match c.message with
    | some m => [": ", m]
    | none => []]

def preview (p : Preview) : List Line :=
  stack [
    [["🧪 Preview ",
      if p.success then (text "passed").green.bold else (text "failed").red.bold]],
    p.checks.map checkRow,
    match p.durationMs with
    | some ms => [["   ", (text (toString ms.toNat ++ " ms")).dim]]
    | none => [],
    match p.stderr.filter (!·.isEmpty) with
    | some s => [[], [(text s).dim]]
    | none => []]

def commented (c : FixComment) : List Line := [["💬 Comment ", (text c.id).dim, " added"]]

def comments (cs : List FixComment) : List Line :=
  stack [
    if cs.isEmpty then [["No comments yet."]] else [],
    cs.flatMap fun c =>
      [[(text (c.author.getD "unknown")).bold, " ",
          (text ((c.createdAt.map Instant.writeMinute).getD "")).dim],
        ["   ", c.content]]]

end CodeHealth.Display
