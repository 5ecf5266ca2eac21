import CodeHealth.Display.Parts
import CodeHealth.Number.Fixed
import CodeHealth.Page
import CodeHealth.Repository

/-! Repositories and runs of their analysis on the terminal. -/
namespace CodeHealth.Display

open Terminal
open Number (fixed)

/-- The state of a run in a column of the given width. -/
def runStatus (width : Nat) (s : RunStatus) : Span :=
  let t := text (Text.padEnd width (Label.name s))
  match s with
  | .completed => t.green.bold
  | .failed => t.red.bold
  | .running => t.cyan
  | .queued => t.dim

def progress (r : Run) : String :=
  Label.name r.status ++ " " ++ toString r.progressPercent.toNat ++ "%" ++
    match r.currentStep with
    | some step => " · " ++ step
    | none => ""

def repositoryRow (r : Repository) : Line :=
  let health := (r.healthScore.map (fixed 0)).getD "-"
  ["   ", (text r.id).dim, "  ", (text (Text.padEnd 40 r.fullName)).bold, " health ",
    Text.padStart 3 health, "  ", Text.padStart 4 (toString r.findingsCount.toNat), " findings  ",
    (text ((r.lastAnalyzedAt.map Instant.writeDate).getD "never")).dim]

def repositories (p : Page Repository) : List Line :=
  stack [
    [heading "📦 Repositories", []],
    if p.items.isEmpty then
      [["No repositories connected. Run ",
        (text "repotoire-cloud repos connect <owner/name>").cyan]]
    else [],
    p.items.map repositoryRow]

def connected (r : Repository) : List Line :=
  [["✅ Connected ", (text r.fullName).bold, " (", r.id, ")"],
    ["   Run ", (text ("repotoire-cloud analyze " ++ r.id ++ " --wait")).cyan, " to analyze it"]]

def removed (id : String) : List Line := [["🗑  Removed repository ", (text id).bold]]

def runRow (r : Run) : Line :=
  ["   ", (text r.id).dim, "  ", runStatus 9 r.status, "  ",
    (text ((r.startedAt.map Instant.writeMinute).getD "")).dim, "  ",
    (r.findingsCount.map fun n => toString n.toNat ++ " findings").getD ""]

def history (p : Page Run) : List Line :=
  heading "🕘 Analysis History" :: [] :: p.items.map runRow

def queued (r : Run) : List Line :=
  [["🚀 Analysis ", (text r.id).bold, " queued"],
    ["   Follow it with ", (text ("repotoire-cloud run " ++ r.id ++ " --wait")).cyan]]

def run (r : Run) : List Line :=
  stack [
    [[(text "🔬 Analysis").bold, " ", (text r.id).dim], labelled "Status:" [runStatus 0 r.status]],
    if r.status.isTerminal then [] else [labelled "Progress:" [progress r]],
    labelled? "Findings:" (r.findingsCount.map fun n => toString n.toNat),
    labelled? "Health:" (r.healthScore.map (fixed 1)),
    match r.errorMessage with
    | some e => [["   ", (text "Error:").red.bold, " ", e]]
    | none => [],
    if r.status = .completed then
      [[], ["   Run ", (text ("repotoire-cloud findings --run " ++ r.id)).cyan,
        " to see what was found"]]
    else []]

end CodeHealth.Display
