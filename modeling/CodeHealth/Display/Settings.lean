import CodeHealth.Display.Parts
import CodeHealth.Settings.Config
import CodeHealth.Settings.Preferences

/-! Settings and preferences on the terminal. -/
namespace CodeHealth.Display

open Terminal

def initialized (path : String) : List Line :=
  [["✅ Config initialized at: ", path], [], ["Edit to add your API key:"], ["  ", path], [],
    ["Or set via environment:"], ["  export ", Settings.keyVariable, "=\"rpt_...\""]]

/-- The settings in force, and where their file is or would be. -/
def settings (path : Option String) (isThere : Bool) (s : Settings) : List Line :=
  stack [
    [["📁 Config path:"]],
    match path with
    | some path => [["  ", path, " ", if isThere then "✓" else "(not found)"]]
    | none => [],
    [[], ["🌐 API: ", s.baseUrl],
      ["  API key:  ",
        if s.hasApiKey then (text "✓ configured").green else (text "✗ not set").red],
      ["  Timeout:  ", number s.timeoutSecs.toNat, "s"], [], ["⏱  Polling"],
      ["  Interval:  ", number s.intervalMs.toNat, "ms"],
      ["  Max polls: ", number s.maxPolls.toNat]]]

def changed (key path : String) : List Line := [["✅ Set ", (text key).bold, " in ", path]]

def preferences (path : String) (p : Preferences) : List Line :=
  let row (name : String) (on : Bool) : Line :=
    ["  ", Text.padEnd 22 name, " ", if on then (text "on").green else (text "off").dim]
  [["🎨 Display preferences (", (text path).dim, ")"], row "enable_3d_effects" p.effects3d,
    row "enable_glow" p.glow, row "animated_backgrounds" p.animatedBackgrounds,
    row "onboarding_seen" p.onboardingSeen]

end CodeHealth.Display
