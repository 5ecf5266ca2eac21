import CodeHealth.Analytics
import CodeHealth.Display.Finding
import CodeHealth.Number.Fixed

/-! Dashboard figures and trends on the terminal. -/
namespace CodeHealth.Display

open Terminal
open Number (fixed)

def grade (letter : String) : Span :=
  match letter.toList.head? with
  | some 'A' => (text letter).green.bold
  | some 'B' => (text letter).cyan.bold
  | some 'C' => (text letter).yellow.bold
  | _ => (text letter).red.bold

/-- A change of the score with an arrow up or down. -/
def arrow (delta : Binary64) : Span :=
  if delta.atLeast 0 then (text ("▲ " ++ fixed 1 delta)).green
  else (text ("▼ " ++ fixed 1 delta.negate)).red

def partScore (name : String) : Option Binary64 → List Line
  | some x => [["     ", Text.padEnd 13 name, " ", fixed 1 x]]
  | none => []

def dashboard (d : Dashboard) (h : HealthScore) : List Line :=
  stack [
    [heading "📈 Analytics", [],
      labelled "Health:" [fixed 1 h.score, "/100  ", grade h.letter]],
    match h.trend with
    | some delta => [labelled "Trend:" [arrow delta, " since last analysis"]]
    | none => [],
    partScore "Structure" h.structureScore, partScore "Quality" h.qualityScore,
    partScore "Architecture" h.architectureScore,
    [[],
      labelled "Findings:" [(number d.openFindings.toNat).yellow, " open, ",
        (number d.resolvedFindings.toNat).green, " resolved"],
      severityLine "     " d.critical d.high d.medium d.low,
      labelled "Fixes:" [number d.fixesPending.toNat, " pending, ", number d.fixesApproved.toNat,
        " approved, ", number d.fixesApplied.toNat, " applied"],
      labelled "Repositories:" [number d.repositories.toNat]]]

/-- The width of the longest bar. -/
def barWidth : Nat := 40

def trendRow (greatest : Nat) (p : TrendPoint) : Line :=
  let bar := String.ofList (List.replicate (p.total.toNat * barWidth / greatest) '█')
  beside [
    ["   ", (text p.date).dim, "  ", Text.padStart 5 (toString p.total.toNat), "  ",
      (text bar).cyan],
    if p.critical = 0 then [] else [(text (" " ++ toString p.critical.toNat ++ " critical")).red]]

def trends (period : Period) (ps : List TrendPoint) : List Line :=
  stack [
    [[(text "📉 Findings Trend").bold, " (", Label.name period, ")"], []],
    if ps.isEmpty then [["No data for this period yet."]]
    else
      let greatest := ps.foldl (fun n p => max n p.total.toNat) 1
      ps.map (trendRow greatest)]

end CodeHealth.Display
