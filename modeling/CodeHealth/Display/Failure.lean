import CodeHealth.Display.Parts
import CodeHealth.Failure.Explanation

/-! Failures on the terminal. -/
namespace CodeHealth.Display

open Terminal

/-- A failure that has an explanation, as a notice. -/
def explanation (e : Explanation) : List Line :=
  let t := e.toast
  stack [
    [[(text "✗").red.bold, " ", (text t.title).bold, " ", (text ("[" ++ t.code ++ "]")).dim],
      ["  ", t.description]],
    match t.action with
    | some a => [["  ", (text "→").cyan, " ", a]]
    | none => []]

/-- Any other failure. -/
def error (message : String) : List Line := [[(text "error:").red.bold, " ", message]]

end CodeHealth.Display
