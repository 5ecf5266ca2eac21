import CodeHealth.Arguments.Reader
import CodeHealth.Command.Basic
import CodeHealth.Settings.Config

/-! The grammar of the program's command line. -/
namespace CodeHealth.CommandLine

open Arguments

def option (name : String) : Parameter := { name }

def flag (name : String) : Parameter := { name, arity := .none }

def operand (name : String) : Parameter := { name, required := true }

def operands (name : String) : Parameter := { name, arity := .many, required := true }

def pageReading : Reading :=
  .counted fun n => if n = 0 then some "pages start at 1" else none

def pageSizeReading : Reading :=
  .counted fun n =>
    if n = 0 then some "per-page must be at least 1"
    else if 100 < n then some "per-page cannot exceed 100"
    else none

def page : Parameter := { name := "page", read := pageReading }

def pageSize : Parameter := { name := "per-page", read := pageSizeReading }

/-- What every command understands. -/
def shared : List Parameter :=
  [option "api-url",
    { name := "log-level", read := .among ["error", "warn", "info", "debug", "trace"] },
    flag "json"]

/-- A command that ends the line. -/
def leaf (name : String) (options operands : List Parameter) (make : Values → Command) :
    Grammar Command :=
  { name, options, operands, make := some make }

/-- A command that others follow. -/
def branch (name : String) (commands : List (Grammar Command)) (alone : Option Command) :
    Grammar Command :=
  { name, commands, make := alone.map fun c _ => c }

def pageOf (vs : Values) : UInt32 := vs.number "page" 1

def pageSizeOf (vs : Values) : UInt32 := vs.number "per-page" 20

def findings : Grammar Command :=
  leaf "findings"
    [option "severity", option "detector", option "status", option "category", option "repo",
      option "run", option "search", page, pageSize, option "sort",
      { name := "asc", arity := .none, needs := ["sort"] }]
    [{ name := "id" }] fun vs =>
      .errand <| match vs.text? "id" with
      | some id => .finding id
      | none =>
        .findings ⟨vs.text? "severity", vs.text? "detector", vs.text? "status",
          vs.text? "category", vs.text? "repo", vs.text? "run", vs.text? "search"⟩
          (pageOf vs) (pageSizeOf vs) (vs.text? "sort") (vs.truth "asc")

def summary : Grammar Command :=
  leaf "summary" [option "repo", { name := "top", read := .count }] [] fun vs =>
    .errand (.summary (vs.text? "repo") (vs.number "top" 5))

def triage : Grammar Command :=
  leaf "triage" [{ name := "status", required := true }, option "reason"] [operands "ids"] fun vs =>
    .errand (.triage (vs.texts "ids") (vs.text "status") (vs.text? "reason"))

def fixes : Grammar Command :=
  leaf "fixes" [option "status", option "confidence", option "repo", option "finding", page, pageSize]
    [] fun vs =>
      .errand (.fixes (vs.text? "status") (vs.text? "confidence") (vs.text? "repo")
        (vs.text? "finding") (pageOf vs) (pageSizeOf vs))

def fix : Grammar Command :=
  branch "fix" [
    leaf "show" [] [operand "id"] fun vs => .errand (.fix (.look (vs.text "id"))),
    leaf "approve" [] [operands "ids"] fun vs => .errand (.fix (.approve (vs.texts "ids"))),
    leaf "reject" [option "reason"] [operands "ids"] fun vs =>
      .errand (.fix (.reject (vs.texts "ids") (vs.text? "reason"))),
    leaf "apply" [] [operand "id"] fun vs => .errand (.fix (.apply (vs.text "id"))),
    leaf "preview" [] [operand "id"] fun vs => .errand (.fix (.preview (vs.text "id"))),
    leaf "comment" [] [operand "id", operand "text"] fun vs =>
      .errand (.fix (.comment (vs.text "id") (vs.text "text"))),
    leaf "comments" [] [operand "id"] fun vs => .errand (.fix (.comments (vs.text "id")))]
    none

def analytics : Grammar Command :=
  leaf "analytics" [option "repo"] [] fun vs => .errand (.dashboard (vs.text? "repo"))

def trends : Grammar Command :=
  leaf "trends" [option "period", option "repo"] [] fun vs =>
    .errand (.trends ((vs.text? "period").getD "30d") (vs.text? "repo"))

def repositories : Grammar Command :=
  branch "repos" [
    leaf "list" [page] [] fun vs => .errand (.repositories (.list (pageOf vs))),
    leaf "connect" [] [operand "full-name"] fun vs =>
      .errand (.repositories (.connect (vs.text "full-name"))),
    leaf "remove" [] [operand "id"] fun vs => .errand (.repositories (.remove (vs.text "id"))),
    leaf "history" [page] [operand "id"] fun vs =>
      .errand (.repositories (.history (vs.text "id") (pageOf vs)))]
    (some (.errand (.repositories (.list 1))))

def analyze : Grammar Command :=
  leaf "analyze" [flag "wait"] [operand "repo"] fun vs =>
    .errand (.analyze (vs.text "repo") (vs.truth "wait"))

def run : Grammar Command :=
  leaf "run" [flag "wait"] [operand "id"] fun vs => .errand (.run (vs.text "id") (vs.truth "wait"))

def billing : Grammar Command :=
  branch "billing" [
    leaf "show" [] [] fun _ => .errand (.billing .overview),
    leaf "invoices" [page] [] fun vs => .errand (.billing (.invoices (pageOf vs))),
    leaf "upgrade" [{ name := "tier", required := true }, { name := "seats", read := .count }] []
      fun vs => .errand (.billing (.upgrade (vs.text "tier") (vs.number "seats" 1))),
    leaf "portal" [] [] fun _ => .errand (.billing .portal)]
    (some (.errand (.billing .overview)))

def marketplace : Grammar Command :=
  leaf "marketplace"
    [option "type", option "search", flag "verified",
      { name := "installed", arity := .none, excludes := ["type", "search", "verified"] }, page] []
    fun vs =>
      .errand <| if vs.truth "installed" then .installedAssets
        else .assets (vs.text? "type") (vs.text? "search") (vs.truth "verified") (pageOf vs)

def install : Grammar Command :=
  leaf "install" [] [operand "slug"] fun vs => .errand (.install (vs.text "slug"))

def uninstall : Grammar Command :=
  leaf "uninstall" [] [operand "slug"] fun vs => .errand (.uninstall (vs.text "slug"))

def settings : Grammar Command :=
  branch "config" [
    leaf "init" [] [] fun _ => .settings .init,
    leaf "show" [] [] fun _ => .settings .look,
    leaf "set" [] [operand "key", operand "value"] fun vs =>
      .settings (.set (vs.text "key") (vs.text "value"))]
    none

def preferences : Grammar Command :=
  branch "prefs" [
    leaf "show" [] [] fun _ => .preferences .look,
    leaf "set" [] [operand "key", { name := "value", read := .truth, required := true }] fun vs =>
      .preferences (.set (vs.text "key") (vs.truth "value")),
    leaf "reset" [] [] fun _ => .preferences .reset]
    none

def program : Program Command where
  shared
  top := branch "repotoire-cloud" [findings, summary, triage, fixes, fix, analytics, trends,
    repositories, analyze, run, billing, marketplace, install, uninstall, settings, preferences,
    leaf "doctor" [] [] fun _ => .checkup, leaf "version" [] [] fun _ => .version] none

end CodeHealth.CommandLine

namespace CodeHealth

/-- A command with what is shared by all of them. -/
structure Invocation where
  apiUrl : Option String
  json : Bool
  command : Command
  deriving DecidableEq

/-- The command that a line stands for. The address of the service may come from the environment
instead, where even an empty text counts. -/
def Invocation.read (env : Settings.Environment) (line : List String) :
    Except Arguments.Usage Invocation := do
  let preset := env.lookup Settings.urlVariable
  let (vs, command) ← CommandLine.program.read preset.isSome line
  .ok ⟨vs.text? "api-url" <|> preset, vs.truth "json", command⟩

end CodeHealth
