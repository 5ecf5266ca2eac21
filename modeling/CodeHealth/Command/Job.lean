import CodeHealth.Display.Failure
import CodeHealth.Session.FindingsList
import CodeHealth.Session.Poller
import CodeHealth.Settings.Config

/-! Jobs: what a command does with the service, up to the trouble that stops it. -/
namespace CodeHealth

/-- What stops a command. -/
inductive Trouble where
  | explained (e : Explanation)
  | told (message : String)
  deriving DecidableEq

def Trouble.display : Trouble → List Terminal.Line
  | explained e => Display.explanation e
  | told message => Display.error message

abbrev Job (β α : Type) := ExceptT Trouble (StateM (World β)) α

/-- The settings with another address of the service, if one is given. -/
def Settings.withUrl (s : Settings) : Option String → Settings
  | some url => { s with api.baseUrl := some url }
  | none => s

/-- The client that the settings describe. -/
def Settings.client (s : Settings) : Client := ⟨s.baseUrl, s.api.apiKey, true⟩

/-- Who talks to the service, with the settings in force, and whether values are shown as JSON. -/
structure Connection where
  client : Client
  settings : Settings
  json : Bool

namespace Job

variable {α β : Type}

def ofOutcome (r : Except Explanation α × World β) : Except Trouble α × World β :=
  (r.1.mapError .explained, r.2)

def read [Backend β] (c : Client) (q : Query) : Job β q.Answer := fun w =>
  let (state, w) := q.handle.read c w
  ofOutcome (state.result, w)

def change [Backend β] (c : Client) (x : Change) : Job β x.Answer := fun w =>
  ofOutcome (x.mutation.run c w)

/-- The value that a user means by a word. -/
def word [Spelling α] (flag s : String) : Job β α :=
  match Spelling.read s with
  | .ok a => pure a
  | .error e => throw (.told ("--" ++ flag ++ ": " ++ e.message))

def word? [Spelling α] (flag : String) : Option String → Job β (Option α)
  | some s => do return some (← word flag s)
  | none => pure none

end Job

/-- What is shown of a value: its JSON text, or its display. -/
def Connection.shown {α : Type} (x : Connection) (s : Shape α) (display : α → List Terminal.Line)
    (a : α) : List Terminal.Line :=
  if x.json then [[(s.encode a).pretty]] else display a

/-- The JSON text of several values under their names, in the order of the names. -/
def jsonLines (ms : List (String × Json)) : List Terminal.Line :=
  [[(Json.record ms).plain.pretty]]

end CodeHealth
