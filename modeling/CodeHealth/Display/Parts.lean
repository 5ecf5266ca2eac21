import CodeHealth.Terminal.Line
import CodeHealth.Text.Pad

/-! Pieces that displays are put together from. -/
namespace CodeHealth.Display

open Terminal

def heading (s : String) : Line := [(text s).bold]

/-- A named value. -/
def labelled (name : String) (value : Line) : Line :=
  "   " :: (text name).bold :: " " :: value

/-- A named value, if there is one. -/
def labelled? (name : String) : Option String → List Line
  | some s => [labelled name [s]]
  | none => []

/-- A paragraph under its heading, if there is one. -/
def paragraph? (title : String) : Option String → List Line
  | some s => [[], heading title, ["   ", s]]
  | none => []

/-- How to see the page after `page`, if there is one. -/
def nextPage (page : UInt32) (hasMore : Bool) : List Line :=
  if hasMore then
    [["   Use ", (text ("--page " ++ toString (page.toNat + 1))).yellow, " to see more"]]
  else []

/-- The same, apart from the list above it. -/
def nextPageApart (page : UInt32) (hasMore : Bool) : List Line :=
  if hasMore then [] :: nextPage page true else []

def cross : Span := (text "✗").red

def tick : Span := (text "✓").green

/-- What a change has failed for, one a line. -/
def failures (ids : List String) : List Line := ids.map fun (id : String) => ["   ", cross, " ", id]

end CodeHealth.Display
