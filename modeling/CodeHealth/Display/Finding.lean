import CodeHealth.Display.Parts
import CodeHealth.Finding
import CodeHealth.Page

/-! Findings on the terminal. -/
namespace CodeHealth.Display

open Terminal

/-- A severity as a badge in a column of the given width. -/
def badge (width : Nat) : Severity → Span
  | .critical => (text (Text.padEnd width "CRITICAL")).red.bold
  | .high => (text (Text.padEnd width "HIGH")).yellow.bold
  | .medium => (text (Text.padEnd width "MEDIUM")).cyan
  | .low => (text (Text.padEnd width "LOW")).dim
  | .info => (text (Text.padEnd width "INFO")).dim

def findingsWord (n : Nat) : String := if n = 1 then "finding" else "findings"

/-- The counts of the four upper severities. -/
def severityLine (indent : String) (critical high medium low : UInt64) : Line :=
  [indent, (number critical.toNat).red.bold, " critical  ", (number high.toNat).yellow.bold,
    " high  ", (number medium.toNat).cyan, " medium  ", (number low.toNat).dim, " low"]

/-- The two lines of one finding in a list. -/
def findingRow (position : Nat) (f : Finding) : List Line :=
  let place := f.affectedFiles.head?.getD "unknown"
  let line := (f.lineStart.map fun l => ":" ++ toString l.toNat).getD ""
  [[(text (Text.padStart 3 (toString position))).dim, ". ", badge 8 f.severity, " ",
      (text f.title).bold],
    ["     ", (text "└─").dim, " ", (text place).dim, (text line).dim, "  ", (text f.id).dim, " ",
      (text ("(" ++ Label.name f.status ++ ")")).dim]]

/-- Which page this is, where there are several. -/
def pageLine (p : Page Finding) : List Line :=
  if 1 < p.totalPages then
    [] :: [(text "📑 ").bold, "Page ", (number p.page.toNat).cyan, " of ",
      (number p.totalPages).cyan, " (", (number p.total.toNat).cyan, " total)"] ::
        nextPage p.page p.hasMore
  else []

def findings (p : Page Finding) (counts : SeverityCounts) : List Line :=
  stack [
    [heading "🔍 Findings", [],
      severityLine "   " counts.critical counts.high counts.medium counts.low, []],
    if p.items.isEmpty then [[(text "No findings match these filters.").green]]
    else
      let offset := (p.page.toNat - 1) * p.pageSize.toNat
      (p.items.zipIdx (offset + 1)).flatMap (fun x => findingRow x.2 x.1) ++ pageLine p]

/-- Where in a file a finding is. -/
def lineRange : Option UInt32 → Option UInt32 → String
  | some a, some b =>
    ":" ++ toString a.toNat ++ if b = a then "" else "-" ++ toString b.toNat
  | some a, none => ":" ++ toString a.toNat
  | none, _ => ""

def finding (f : Finding) : List Line :=
  stack [
    [[], [(text "📋").bold, " ", (text f.title).bold], [], labelled "ID:" [f.id],
      labelled "Severity:" [badge 0 f.severity], labelled "Status:" [Label.name f.status],
      labelled "Detector:" [f.detector]],
    labelled? "Category:" f.category, labelled? "CWE:" f.cweId, labelled? "Reason:" f.statusReason,
    if f.affectedFiles.isEmpty then []
    else [] :: heading "📁 Affected Files" ::
      f.affectedFiles.map fun (file : String) => ["   ", file, lineRange f.lineStart f.lineEnd],
    paragraph? "📝 Description" (if f.description.isEmpty then none else some f.description),
    paragraph? "⚠️  Why It Matters" f.whyItMatters,
    paragraph? "💡 Suggested Fix" f.suggestedFix]

def countLine (n : Span) (rest : Line) : Line := "   " :: n :: " " :: rest

def summary (counts : SeverityCounts) (detectors : List DetectorCount) : List Line :=
  let column (n : UInt64) : Span := text (Text.padStart 5 (toString n.toNat))
  let severities : List Severity := [.critical, .high, .medium, .low, .info]
  stack [
    [heading "📊 Findings Summary", []],
    severities.map fun s =>
      let n := counts.count s
      countLine (column n) [findingsWord n.toNat, " ", badge 0 s],
    [countLine (column counts.total).bold ["total"]],
    if detectors.isEmpty then []
    else [] :: heading "🔎 Top Detectors" ::
      detectors.map fun d => countLine (column d.count).cyan [" ", d.detector]]

def triaged (f : Finding) : List Line :=
  [["✅ Marked ", (text f.id).bold, " as ", (text (Label.name f.status)).cyan]]

def triagedAll (status : TriageStatus) (count : Nat) (r : BulkUpdate) : List Line :=
  ["✅ Marked ", (number r.updated.toNat).bold, " of ", number count, " ", findingsWord count,
    " as ", (text (Label.name status)).cyan] :: failures r.failed

end CodeHealth.Display
