import CodeHealth.Display.Parts
import CodeHealth.Marketplace
import CodeHealth.Page

/-! Assets of the marketplace on the terminal. -/
namespace CodeHealth.Display

open Terminal

def assetRow (a : Asset) : List Line :=
  let row : Line := ["   ", if a.isVerified then tick else " ", " ",
    (text (Text.padEnd 32 a.slug)).bold, " ", Label.name a.kind, " ",
    Text.padStart 7 (toString a.installCount.toNat), " installs  ",
    if a.isInstalled then (text "installed").green else ""]
  row :: if a.description.isEmpty then [] else [["     ", (text a.description).dim]]

def assets (p : Page Asset) : List Line :=
  stack [
    [heading "🛒 Marketplace", []],
    if p.items.isEmpty then [["No assets match these filters."]] else [],
    p.items.flatMap assetRow, nextPageApart p.page p.hasMore]

def installedAssets (xs : List InstalledAsset) : List Line :=
  stack [
    [heading "📥 Installed Assets", []],
    if xs.isEmpty then [["Nothing installed yet."]] else [],
    xs.flatMap fun x => stack [
      assetRow x.asset,
      match x.installedVersion with
      | some v => [["     ", (text ("v" ++ v)).dim]]
      | none => []]]

def installed (x : InstalledAsset) : List Line := [["✅ Installed ", (text x.asset.name).bold]]

def uninstalled (slug : String) : List Line := [["🗑  Uninstalled ", (text slug).bold]]

end CodeHealth.Display
