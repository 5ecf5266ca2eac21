import CodeHealth.Command.Job

/-! The checkup: are the settings in order, and does the service answer? -/
namespace CodeHealth.Checkup

open Terminal (Line)

/-- What is found about one thing, and whether it is in order. -/
structure Entry where
  lines : List Line
  passed : Bool := true

def settings : Except SettingsError Settings → Entry
  | .ok _ => ⟨[["✓ Config: OK"]], true⟩
  | .error e => ⟨[[Display.cross, " Config: ", e.message]], false⟩

def address (s : Settings) : Entry := ⟨[["  API: ", s.baseUrl]], true⟩

def key (s : Settings) : Entry :=
  if s.hasApiKey then ⟨[["✓ API key: configured"]], true⟩
  else ⟨[["○ API key: not set"],
    ["  Set ", Settings.keyVariable, " or run ", "`repotoire-cloud config set api.api_key <key>`"]],
    true⟩

def preferences (home : Home) : Entry :=
  match home.preferences with
  | some place => ⟨[["✓ Preferences: ", place.path]], true⟩
  | none => ⟨[["○ Preferences: no data directory, using defaults"]], true⟩

/-- A service that asks for a key which is not set is reachable. -/
def service (s : Settings) : Except Fault Subscription → Entry
  | .ok sub => ⟨[["✓ Backend: reachable (", Label.name sub.tier, " plan)"]], true⟩
  | .error f =>
    let e := explain (.fault f)
    if e.category = .authentication ∧ !s.hasApiKey then
      ⟨[["✓ Backend: reachable (not signed in)"]], true⟩
    else ⟨[[Display.cross, " Backend: ", e.title, " [", e.code, "]"], ["  ", e.action]], false⟩

variable {β : Type} [Backend β]

/-- Everything that is found, with the requests that it took. -/
def entries (env : Settings.Environment) (home : Home) (apiUrl : Option String) (w : World β) :
    List Entry × World β :=
  let loaded := Settings.inForce home env
  let s := (loaded.toOption.getD {}).withUrl apiUrl
  let (answer, w) := s.client.ask Query.subscription.call w
  ([settings loaded, address s, key s, preferences home, service s answer], w)

end CodeHealth.Checkup
