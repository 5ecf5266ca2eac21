/-! Places where a file may be kept. -/
namespace CodeHealth

/-- A place with the text of the file in it, if there is one, and whether writes succeed. A garbled
file is there, but holds no text. -/
structure FileSlot where
  text? : Option String := none
  writable : Bool := true
  garbled : Bool := false
  deriving DecidableEq

namespace FileSlot

def absent : FileSlot := {}

def holding (s : String) : FileSlot := { text? := some s }

/-- A place below something that is not a directory: nothing can be read or written. -/
def blocked : FileSlot := { writable := false }

def isThere (file : FileSlot) : Bool := file.text?.isSome || file.garbled

/-- The place after a write; none where it fails. -/
def write (s : String) (file : FileSlot) : Option FileSlot :=
  if file.writable then some { file with text? := some s, garbled := false } else none

/-- Why there is nothing to read, or no way to write. -/
def trouble (file : FileSlot) : String :=
  if file.garbled then "stream did not contain valid UTF-8"
  else if file.writable then "No such file or directory (os error 2)"
  else "Not a directory (os error 20)"

end FileSlot

/-- What can go wrong with settings and preferences. -/
inductive SettingsError where
  | inaccessible (path : String) (why : String)
  | unreadable (path : String) (why : String)
  | unknownKey (key : String)
  | invalidValue (key value : String)
  | noDirectory
  deriving DecidableEq

namespace SettingsError

def message : SettingsError → String
  | inaccessible path why => "Failed to access " ++ path ++ ": " ++ why
  | unreadable path why => "Failed to parse " ++ path ++ ": " ++ why
  | unknownKey key => "Unknown config key: " ++ key
  | invalidValue key value => "Invalid value '" ++ value ++ "' for " ++ key
  | noDirectory => "Could not determine config directory"

/-- The message with its cause once more at the end, where there is one. -/
def fullMessage (e : SettingsError) : String :=
  match e with
  | inaccessible _ why => e.message ++ ": " ++ why
  | _ => e.message

end SettingsError

/-- A file at its place in the file system. -/
structure Place where
  path : String
  file : FileSlot
  deriving DecidableEq

/-- Where settings and preferences are kept; nowhere if no directory for them is known. -/
structure Home where
  settings : Option Place
  preferences : Option Place
  deriving DecidableEq

end CodeHealth
