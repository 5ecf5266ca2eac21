import CodeHealth.Command.Checkup
import CodeHealth.Command.Errand
import CodeHealth.Command.Grammar
import CodeHealth.Command.Local

/-! Running a command line: what is printed, how it ends, and what has become of the files and of
the service. What a command logs for developers beside what it prints is left out, here and in all
that it uses; nothing is decided by it. -/
namespace CodeHealth

open Terminal (Line)

/-- How a command line ends. -/
inductive Ending where
  | done
  | failed (t : Trouble)
  | refused (u : Arguments.Usage)
  deriving DecidableEq

structure Outcome (β : Type) where
  ending : Ending
  /-- What is printed before the end. -/
  printed : List Line
  home : Home
  world : World β

namespace Ending

def exitCode : Ending → Nat
  | done => 0
  | failed _ => 1
  | refused u => u.exitCode

/-- What is said about the end. -/
def complaint : Ending → List Line
  | failed t => t.display
  | _ => []

end Ending

namespace Outcome

variable {β : Type}

def exitCode (o : Outcome β) : Nat := o.ending.exitCode

def stdout (o : Outcome β) (color : Bool) : String := Terminal.write color o.printed

def stderr (o : Outcome β) (color : Bool) : String := Terminal.write color o.ending.complaint

/-- The outcome of a command that sends nothing. -/
def ofLocal (home : Home) (w : World β) : Except SettingsError (List Line × Home) → Outcome β
  | .ok (printed, home) => ⟨.done, printed, home, w⟩
  | .error e => ⟨.failed (.told e.fullMessage), [], home, w⟩

/-- The outcome of a checkup: it fails if anything is not in order. -/
def ofCheckup (home : Home) (r : List Checkup.Entry × World β) : Outcome β :=
  let lines : List Line := ["🩺 Repotoire Cloud Doctor"] :: [] :: r.1.flatMap (·.lines)
  match r.1.countP (!·.passed) with
  | 0 => ⟨.done, Terminal.stack [lines, [[], ["✅ All checks passed!"]]], home, r.2⟩
  | n => ⟨.failed (.told (toString n ++ " check(s) failed")), lines, home, r.2⟩

end Outcome

def versionText : String := "repotoire-cloud 0.6.0"

variable {β : Type} [Backend β]

/-- An errand under the settings in force. -/
def Errand.outcome (env : Settings.Environment) (home : Home) (apiUrl : Option String) (json : Bool)
    (e : Errand) (w : World β) : Outcome β :=
  match Settings.inForce home env with
  | .error e =>
    ⟨.failed (.told ("Failed to load cloud configuration: " ++ e.fullMessage)), [], home, w⟩
  | .ok s =>
    let s := s.withUrl apiUrl
    match e.perform ⟨s.client, s, json⟩ w with
    | (.ok printed, w) => ⟨.done, printed, home, w⟩
    | (.error t, w) => ⟨.failed t, [], home, w⟩

namespace Invocation

def run (env : Settings.Environment) (home : Home) (i : Invocation) (w : World β) : Outcome β :=
  match i.command with
  | .errand e => e.outcome env home i.apiUrl i.json w
  | .settings action => .ofLocal home w (action.perform home env i.json)
  | .preferences action => .ofLocal home w (action.perform home i.json)
  | .checkup => .ofCheckup home (Checkup.entries env home i.apiUrl w)
  | .version => ⟨.done, [[versionText]], home, w⟩

end Invocation

namespace CommandLine

/-- Runs a command line against a service, from the start. -/
def execute (env : Settings.Environment) (home : Home) (backend : β) (line : List String) :
    Outcome β :=
  match Invocation.read env line with
  | .ok i => i.run env home (.start backend)
  | .error u => ⟨.refused u, [], home, .start backend⟩

end CommandLine

end CodeHealth
