import CodeHealth.Json.Shape
import CodeHealth.Settings.File

/-! Display preferences, and the store that keeps them. A change is first written to the file, then
taken over, then told to everyone who listens; a change that changes nothing does none of this. -/
namespace CodeHealth

structure Preferences where
  effects3d : Bool := true
  glow : Bool := true
  animatedBackgrounds : Bool := true
  onboardingSeen : Bool := false
  deriving DecidableEq

namespace Preferences

def shape : Shape Preferences :=
  .record
    (.cons "enable_3d_effects" .flag (some true) <|
    .cons "enable_glow" .flag (some true) <|
    .cons "animated_backgrounds" .flag (some true) <|
    .cons "onboarding_seen" .flag (some false) .nil)
    { fields := fun v => (v.effects3d, v.glow, v.animatedBackgrounds, v.onboardingSeen, ())
      make := fun (a, b, c, d, ()) => ⟨a, b, c, d⟩
      make_fields := fun _ => rfl
      fields_make := fun _ => rfl }

/-- Sets one flag by its name. -/
def set (p : Preferences) (key : String) (value : Bool) : Except SettingsError Preferences :=
  match key with
  | "enable_3d_effects" => .ok { p with effects3d := value }
  | "enable_glow" => .ok { p with glow := value }
  | "animated_backgrounds" => .ok { p with animatedBackgrounds := value }
  | "onboarding_seen" => .ok { p with onboardingSeen := value }
  | _ => .error (.unknownKey key)

def setAll (p : Preferences) : List (String × Bool) → Except SettingsError Preferences
  | [] => .ok p
  | (key, value) :: r => do setAll (← p.set key value) r

/-- The text of the file that holds the preferences. -/
def write (p : Preferences) : String := (shape.encode p).pretty

/-- The preferences in a file; the defaults where it is missing or cannot be read. -/
def ofFile (file : FileSlot) : Preferences := (file.text?.bind shape.read).getD {}

end Preferences

/-- Preferences with their file and the listeners in the order in which they came. -/
structure PreferenceStore (ι : Type) where
  path : String
  file : FileSlot
  current : Preferences
  listeners : List ι

namespace PreferenceStore

variable {ι : Type}

/-- The store of a file, without listeners. -/
def atPath (path : String) (file : FileSlot) : PreferenceStore ι := ⟨path, file, .ofFile file, []⟩

def subscribe (s : PreferenceStore ι) (listener : ι) : PreferenceStore ι :=
  { s with listeners := s.listeners ++ [listener] }

/-- Takes over `next`; gives the store and who was told what. -/
def replace (s : PreferenceStore ι) (next : Preferences) :
    Except SettingsError (PreferenceStore ι × List (ι × Preferences)) :=
  if next = s.current then .ok (s, [])
  else
    match s.file.write next.write with
    | none => .error (.inaccessible s.path s.file.trouble)
    | some file => .ok ({ s with file, current := next }, s.listeners.map (·, next))

def update (s : PreferenceStore ι) (change : Preferences → Preferences) :
    Except SettingsError (PreferenceStore ι × List (ι × Preferences)) :=
  s.replace (change s.current)

def markOnboardingSeen (s : PreferenceStore ι) :
    Except SettingsError (PreferenceStore ι × List (ι × Preferences)) :=
  s.update fun p => { p with onboardingSeen := true }

def reset (s : PreferenceStore ι) :
    Except SettingsError (PreferenceStore ι × List (ι × Preferences)) :=
  s.update fun _ => {}

end PreferenceStore

end CodeHealth
