import CodeHealth.Json.Shape

/-! Assets of the marketplace and the installed ones among them. -/
namespace CodeHealth

inductive AssetKind where
  | command
  | skill
  | style
  | hook
  | prompt
  deriving DecidableEq

namespace AssetKind

instance : Spelling AssetKind where
  all := [command, skill, style, hook, prompt]
  name
    | command => "command"
    | skill => "skill"
    | style => "style"
    | hook => "hook"
    | prompt => "prompt"
  mem_all a := by cases a <;> simp
  name_injective a b h := by cases a <;> cases b <;> simp_all
  kind := "asset type"

def shape : Shape AssetKind := .choice inferInstance

end AssetKind

structure Asset where
  id : String
  slug : String
  name : String
  kind : AssetKind
  description : String
  publisher : Option String
  version : Option String
  rating : Option Binary32
  installCount : UInt64
  isInstalled : Bool
  isVerified : Bool
  priceCents : UInt32
  deriving DecidableEq

def Asset.shape : Shape Asset :=
  .record
    (.cons "id" .text none <|
    .cons "slug" .text none <|
    .cons "name" .text none <|
    .cons "asset_type" AssetKind.shape none <|
    .cons "description" .text (some "") <|
    .cons "publisher" (.option .text) (some none) <|
    .cons "version" (.option .text) (some none) <|
    .cons "rating" (.option .real32) (some none) <|
    .cons "install_count" .uint64 (some 0) <|
    .cons "is_installed" .flag (some false) <|
    .cons "is_verified" .flag (some false) <|
    .cons "price_cents" .uint32 (some 0) .nil)
    { fields := fun v => (v.id, v.slug, v.name, v.kind, v.description, v.publisher, v.version,
        v.rating, v.installCount, v.isInstalled, v.isVerified, v.priceCents, ())
      make := fun (a, b, c, d, e, f, g, h, i, j, k, l, ()) => ⟨a, b, c, d, e, f, g, h, i, j, k, l⟩
      make_fields := fun _ => rfl
      fields_make := fun _ => rfl }

structure InstalledAsset where
  asset : Asset
  installedVersion : Option String
  installedAt : Option Instant
  deriving DecidableEq

def InstalledAsset.shape : Shape InstalledAsset :=
  .record
    (.cons "asset" Asset.shape none <|
    .cons "installed_version" (.option .text) (some none) <|
    .cons "installed_at" (.option .instant) (some none) .nil)
    { fields := fun v => (v.asset, v.installedVersion, v.installedAt, ())
      make := fun (a, b, c, ()) => ⟨a, b, c⟩
      make_fields := fun _ => rfl
      fields_make := fun _ => rfl }

end CodeHealth
