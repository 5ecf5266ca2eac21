import CodeHealth.Command.Grammar
import CodeHealth.Command.Run

/-! What is said to a line that is not run: how to use the program, and what is wrong. -/
namespace CodeHealth

open Arguments
open Terminal (Line text)

/-- The commands below a command, one a line. -/
def CommandLine.overview (g : Grammar Command) : List Line :=
  [(text "Usage:").bold, " ", g.name, " <command>"] :: [] ::
    g.commands.map fun c => ["  ", c.name]

namespace Arguments.Usage

def message : Usage → String
  | help => "help is wanted"
  | version => "the version is wanted"
  | nothing => "a command is needed"
  | missingCommand => "a command is needed"
  | unknownCommand => "there is no such command"
  | unknownArgument => "an argument is not understood"
  | surplusValue => "an option without a value has one"
  | unsuitable => "a value is missing or not among those allowed"
  | refused (some reason) => "a value is refused: " ++ reason
  | refused none => "a value is refused"
  | conflict => "arguments exclude each other"
  | missing => "an argument is missing"

/-- What is printed for a line that is not run, and whether as a complaint. -/
def reply : Usage → List Line × Bool
  | help => (CommandLine.overview CommandLine.program.top, false)
  | version => ([[versionText]], false)
  | u => (Display.error u.message, true)

end Arguments.Usage

end CodeHealth
