import CodeHealth.Command.Basic
import CodeHealth.Display.Settings

/-! Commands that work on the files at home and send nothing. Each gives the lines that it prints
and the home as it is afterwards; one that fails leaves it as it was. -/
namespace CodeHealth

open Terminal (Line)

/-- The settings without the key itself. -/
def Settings.redacted (s : Settings) : Settings :=
  { s with api := { s.api with apiKey := s.api.apiKey.map fun _ => "***" } }

namespace SettingsAction

/-- Sets one value in the file, which is made if there is none. -/
def change (place : Place) (key value : String) : Except SettingsError Place := do
  let s ← if place.file.isThere then Settings.loadFile place.path place.file else .ok {}
  let s ← s.set key value
  let file ← s.save place.path place.file
  .ok { place with file }

def perform (home : Home) (env : Settings.Environment) (json : Bool) :
    SettingsAction → Except SettingsError (List Line × Home)
  | init =>
    match home.settings with
    | none => .error .noDirectory
    | some place => do
      let file ← Settings.init place.path place.file
      .ok (Display.initialized place.path, { home with settings := some { place with file } })
  | look => do
    let s ← Settings.inForce home env
    .ok (if json then [[s.redacted.json.pretty]]
      else Display.settings (home.settings.map (·.path))
        (home.settings.any (·.file.isThere)) s, home)
  | set key value =>
    match home.settings with
    | none => .error .noDirectory
    | some place => do
      let place ← change place key value
      .ok (Display.changed key place.path, { home with settings := some place })

end SettingsAction

namespace PreferencesAction

def change (s : PreferenceStore Empty) :
    PreferencesAction → Except SettingsError (PreferenceStore Empty)
  | look => .ok s
  | set key value => do .ok (← s.replace (← s.current.set key value)).1
  | reset => do .ok (← s.reset).1

def perform (home : Home) (json : Bool) (action : PreferencesAction) :
    Except SettingsError (List Line × Home) :=
  match home.preferences with
  | none => .error .noDirectory
  | some place => do
    let s ← action.change (.atPath place.path place.file)
    .ok (if json then [[s.current.write]] else Display.preferences s.path s.current,
      { home with preferences := some { place with file := s.file } })

end PreferencesAction

end CodeHealth
