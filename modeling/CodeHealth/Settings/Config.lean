import CodeHealth.Json.Shape
import CodeHealth.Number.Digits
import CodeHealth.Settings.File
import CodeHealth.Toml.Reader
import CodeHealth.Toml.Writer

/-! Settings: how to reach the service and how often to poll it. They come from a file and from the
environment, which has the last word; what neither gives has a default. -/
namespace CodeHealth

structure ApiSettings where
  baseUrl : Option String := none
  apiKey : Option String := none
  timeoutSecs : Option UInt64 := none
  deriving DecidableEq

structure PollingSettings where
  intervalMs : Option UInt64 := none
  maxPolls : Option UInt32 := none
  deriving DecidableEq

structure Settings where
  api : ApiSettings := {}
  polling : PollingSettings := {}
  deriving DecidableEq

namespace Settings

def defaultUrl : String := "https://api.repotoire.io"

def baseUrl (s : Settings) : String := s.api.baseUrl.getD defaultUrl

def hasApiKey (s : Settings) : Bool := s.api.apiKey.isSome

def timeoutSecs (s : Settings) : UInt64 := s.api.timeoutSecs.getD 30

def intervalMs (s : Settings) : UInt64 := s.polling.intervalMs.getD 2000

def maxPolls (s : Settings) : UInt32 := s.polling.maxPolls.getD 300

/-! ### Reading a file -/

def textOf : Toml → Option String
  | .text s => some s
  | _ => none

def wholeOf {α : Type} (range : WholeRange α) : Toml → Option α
  | .whole i => range.ofInt? i
  | _ => none

/-- A member that may be missing, but not of another type. -/
def optional {α : Type} (ms : Toml.Members) (name : String) (read : Toml → Option α) :
    Option (Option α) :=
  match ms.lookup name with
  | none => some none
  | some v => (read v).map some

/-- The members of a section, or all its fields in order. -/
inductive Section where
  | named (ms : Toml.Members)
  | listed (xs : List Toml)

def sectionOf : Toml → Option Section
  | .table _ ms => some (.named ms)
  | .list xs => some (.listed xs)
  | .tables ts => some (.listed (ts.map (.table .header)))
  | _ => none

def readApi : Section → Option ApiSettings
  | .named ms => do
    let baseUrl ← optional ms "base_url" textOf
    let apiKey ← optional ms "api_key" textOf
    let timeoutSecs ← optional ms "timeout_secs" (wholeOf .uint64)
    some { baseUrl, apiKey, timeoutSecs }
  | .listed (a :: b :: c :: _) => do
    some ⟨some (← textOf a), some (← textOf b), some (← wholeOf .uint64 c)⟩
  | .listed _ => none

def readPolling : Section → Option PollingSettings
  | .named ms => do
    let intervalMs ← optional ms "interval_ms" (wholeOf .uint64)
    let maxPolls ← optional ms "max_polls" (wholeOf .uint32)
    some { intervalMs, maxPolls }
  | .listed (a :: b :: _) => do
    some ⟨some (← wholeOf .uint64 a), some (← wholeOf .uint32 b)⟩
  | .listed _ => none

/-- A section that may be missing. -/
def readSection {α : Type} (ms : Toml.Members) (name : String) (absent : α)
    (read : Section → Option α) : Option α :=
  match ms.lookup name with
  | none => some absent
  | some v => do read (← sectionOf v)

def ofTable (ms : Toml.Members) : Option Settings := do
  let api ← readSection ms "api" {} readApi
  let polling ← readSection ms "polling" {} readPolling
  some { api, polling }

def read (text : String) : Option Settings := do ofTable (← Toml.read text)

/-! ### Writing a file -/

/-- A line that sets a name, if there is a value. -/
def line (name : String) : Option (List Char) → List Char
  | some v => name.toList ++ ' ' :: '=' :: ' ' :: v ++ ['\n']
  | none => []

/-- A number in its written form, if it is set; none if it cannot be written. -/
def number : Option UInt64 → Option (Option (List Char))
  | none => some none
  | some n => (Toml.writeWhole n).map some

/-- The file that holds the settings; none if a number in them cannot be written. -/
def write (s : Settings) : Option String := do
  let timeout ← number s.api.timeoutSecs
  let interval ← number s.polling.intervalMs
  let polls ← number (s.polling.maxPolls.map UInt32.toUInt64)
  some (String.ofList ("[api]\n".toList ++ line "base_url" (s.api.baseUrl.map Toml.writeText) ++
    line "api_key" (s.api.apiKey.map Toml.writeText) ++ line "timeout_secs" timeout ++
    "\n[polling]\n".toList ++ line "interval_ms" interval ++ line "max_polls" polls))

/-! ### Single settings -/

def parse {α : Type} (range : WholeRange α) (key value : String) : Except SettingsError α :=
  match (Number.natural? value).bind fun n => range.ofInt? n with
  | some a => .ok a
  | none => .error (.invalidValue key value)

/-- Sets one value by its dotted name. -/
def set (s : Settings) (key value : String) : Except SettingsError Settings :=
  match key with
  | "api.base_url" => .ok { s with api.baseUrl := some value }
  | "api.api_key" => .ok { s with api.apiKey := some value }
  | "api.timeout_secs" => do .ok { s with api.timeoutSecs := some (← parse .uint64 key value) }
  | "polling.interval_ms" => do .ok { s with polling.intervalMs := some (← parse .uint64 key value) }
  | "polling.max_polls" => do .ok { s with polling.maxPolls := some (← parse .uint32 key value) }
  | _ => .error (.unknownKey key)

/-! ### The environment and the file -/

/-- Environment variables by name. -/
abbrev Environment := List (String × String)

def urlVariable : String := "REPOTOIRE_API_URL"

def keyVariable : String := "REPOTOIRE_API_KEY"

/-- A variable that is set to something. -/
def given (env : Environment) (name : String) : Option String :=
  (env.lookup name).filter fun v => !v.isEmpty

def overlay (s : Settings) (env : Environment) : Settings :=
  { s with api := { s.api with
    baseUrl := given env urlVariable <|> s.api.baseUrl
    apiKey := given env keyVariable <|> s.api.apiKey } }

/-- Stands for whatever the reader of a file would report if it is not as it should be: the place and
the nature of the mistake. -/
def report : String := "<toml error>"

/-- The settings of a file that has to be there. -/
def loadFile (path : String) (file : FileSlot) : Except SettingsError Settings :=
  match file.text? with
  | none => .error (.inaccessible path file.trouble)
  | some text =>
    match read text with
    | some s => .ok s
    | none => .error (.unreadable path report)

/-- The settings of a file, if there is one, under those of the environment. -/
def load (path : String) (file : FileSlot) (env : Environment) : Except SettingsError Settings := do
  let s ← if file.isThere then loadFile path file else .ok {}
  .ok (s.overlay env)

/-- The settings in force at a home. -/
def inForce (home : Home) (env : Environment) : Except SettingsError Settings :=
  match home.settings with
  | some place => load place.path place.file env
  | none => .ok (overlay {} env)

/-- Puts the settings into their file. -/
def save (s : Settings) (path : String) (file : FileSlot) : Except SettingsError FileSlot :=
  match s.write with
  | none =>
    .error (if file.writable then .unreadable path "out-of-range value for u64 type"
      else .inaccessible path file.trouble)
  | some text =>
    match file.write text with
    | some file => .ok file
    | none => .error (.inaccessible path file.trouble)

/-- What a new file holds: every setting with its default, commented out. -/
def sample : String := String.join [
  "# Repotoire Cloud Configuration\n\n",
  "[api]\n# base_url = \"https://api.repotoire.io\"\n\n",
  "# Get your key at https://app.repotoire.io/settings/api-keys\n# api_key = \"rpt_...\"\n\n",
  "# timeout_secs = 30\n\n",
  "[polling]\n# interval_ms = 2000\n# max_polls = 300\n"]

/-- Makes a new file where there is none. -/
def init (path : String) (file : FileSlot) : Except SettingsError FileSlot :=
  if file.isThere then .ok file
  else
    match file.write sample with
    | some file => .ok file
    | none => .error (.inaccessible path file.trouble)

/-- The settings as a value, with everything that is not set as null. -/
def json (s : Settings) : Json :=
  let text (v : Option String) : Json := (v.map Json.text).getD .null
  let number (v : Option Nat) : Json := (v.map fun n => Json.whole n).getD .null
  .record [
    ("api", .record [("base_url", text s.api.baseUrl), ("api_key", text s.api.apiKey),
      ("timeout_secs", number (s.api.timeoutSecs.map UInt64.toNat))]),
    ("polling", .record [("interval_ms", number (s.polling.intervalMs.map UInt64.toNat)),
      ("max_polls", number (s.polling.maxPolls.map UInt32.toNat))])]

end Settings

end CodeHealth
