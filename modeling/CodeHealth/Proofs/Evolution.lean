import CodeHealth.Proofs.Json.Variant
import CodeHealth.Proofs.Payload
import Mathlib

/-! The members of payloads: which ones have to be there, and what is taken for the others. Main
statement: a service may reorder the members of payloads, add new ones, and leave out those with a
default, and is understood as before; but not if it leaves out any other. This is said of trees, to
which texts and plain values are brought before anything is understood of them. -/

namespace CodeHealth

open Json (Tree)

namespace Shape

/-- The value that says nothing: nothing, false, zero, no text, no items, or the first label. -/
def blank {α : Type} : Shape α → Option α
  | .unit => some ()
  | .flag => some false
  | .text => some ""
  | .whole range => range.ofInt? 0
  | .real => some (.ofInt 0)
  | .real32 => some (.ofInt 0)
  | .instant => none
  | .choice label => label.all.head?
  | .any _ => some .null
  | .option _ => some none
  | .list _ => some []
  | .record _ _ => none

/-- All fields are such. -/
def Fields.Each (p : (γ : Type) → String → Shape γ → Option γ → Prop) {β : Type} : Fields β → Prop
  | .nil => True
  | .cons name s absent rest => p _ name s absent ∧ Fields.Each p rest

/-- All fields of the record are such. -/
def EachField (p : (γ : Type) → String → Shape γ → Option γ → Prop) {α : Type} : Shape α → Prop
  | .record fields _ => Fields.Each p fields
  | _ => True

theorem Fields.Has.of_each {p : (γ : Type) → String → Shape γ → Option γ → Prop} {α β : Type}
    {fields : Fields β} {place : ℕ} {name : String} {s : Shape α} {absent : Option α}
    (h : Fields.Has fields place name s absent) (heach : Fields.Each p fields) :
    p α name s absent := by
  induction h with
  | first => exact heach.1
  | next _ _ _ _ ih => exact ih heach.2

end Shape

/-- The payloads, those inside of others too, with the pages and the lists in which they come. -/
inductive Schema where
  | payload (p : Payload)
  | check
  | page (items : Schema)
  | list (items : Schema)

namespace Schema

abbrev Value : Schema → Type
  | payload p => p.Value
  | check => PreviewCheck
  | page items => Page items.Value
  | list items => List items.Value

def shape : (p : Schema) → Shape p.Value
  | payload p => p.shape
  | check => PreviewCheck.shape
  | page items => Page.shape items.shape
  | list items => .list items.shape

/-- The members without a default. -/
def required : Schema → List String
  | payload .codeChange => ["file_path"]
  | payload .fix => ["id", "confidence"]
  | payload .fixComment => ["id", "content"]
  | payload .detectorCount => ["detector", "count"]
  | payload .healthScore => ["score"]
  | payload .repository => ["id", "full_name"]
  | payload .run => ["id"]
  | payload .invoice => ["id", "amount_cents"]
  | payload .redirect => ["url"]
  | payload .asset => ["id", "slug", "name", "asset_type"]
  | payload .installedAsset => ["asset"]
  | payload _ => []
  | check => ["name", "passed"]
  | page _ => ["items"]
  | list _ => []

/-- The defaults that say something. -/
def special : Schema → List (String × Json)
  | payload .invoice => [("currency", .text "usd")]
  | payload .repository => [("is_active", .bool true)]
  | payload .preferences =>
    [("enable_3d_effects", .bool true), ("enable_glow", .bool true),
      ("animated_backgrounds", .bool true)]
  | page _ => [("page", .whole 1)]
  | _ => []

/-- The default of a member. -/
def usual {γ : Type} (p : Schema) (name : String) (s : Shape γ) : Option γ :=
  match p.special.lookup name with
  | some v => s.ofJson v
  | none => s.blank

/-- A member is required and has no default, or it is not and has the usual one. -/
inductive Declares (p : Schema) : (γ : Type) → String → Shape γ → Option γ → Prop where
  | needed {γ : Type} {name : String} {s : Shape γ} : name ∈ p.required → Declares p γ name s none
  | optional {γ : Type} {name : String} {s : Shape γ} {a : γ} : name ∉ p.required →
      p.usual name s = some a → Declares p γ name s (some a)

theorem isRegular_shape (p : Schema) : p.shape.isReal32 = false ∧ p.shape.isRegular := by
  induction p with
  | payload p => exact p.isRegular_shape
  | check => exact ⟨rfl, rfl⟩
  | page items ih => exact ⟨rfl, Payload.isRegular_page ih.1 ih.2⟩
  | list items ih => exact ⟨rfl, (Shape.isRegular_list _).2 ih⟩

/-- The shapes declare just these members and defaults. -/
theorem declares_fields (p : Schema) : p.shape.EachField p.Declares := by
  cases p with
  | list items => trivial
  | payload p =>
    cases p <;>
      repeat
        first
        | exact trivial
        | refine And.intro (.optional (by decide) rfl) ?_
        | refine And.intro (.needed (by decide)) ?_
  | check =>
    refine And.intro (.needed (by decide)) ?_
    refine And.intro (.needed (by decide)) ?_
    exact And.intro (.optional (by decide) rfl) trivial
  | page items =>
    refine And.intro (.needed (by simp [required])) ?_
    repeat refine And.intro (.optional (by simp [required]) rfl) ?_
    trivial

/-- What a service sends is understood as before if members come in another order, if there are new
ones, or if some are left out that carry their default, in a payload or inside of it; it is not
understood without a member that has no default. The members without a default and the defaults of
the others are those listed. -/
theorem understands_changed (p : Schema) :
    (∀ t t', p.shape.Variant t t' → p.shape.decode t = p.shape.decode t') ∧
    (∀ t, p.shape.Lacks t → p.shape.decode t = none) ∧
    ∀ {β γ : Type} {fields : Fields β} {view : View p.Value β} {place : ℕ} {name : String}
      {s : Shape γ} {absent : Option γ}, p.shape = .record fields view →
      Shape.Fields.Has fields place name s absent → p.Declares γ name s absent := by
  refine ⟨fun t t' h => h.decode_eq p.isRegular_shape.2, fun t h => h.decode_eq_none, ?_⟩
  intro β γ fields view place name s absent hshape hfield
  have heach : p.shape.EachField p.Declares := p.declares_fields
  rw [hshape] at heach
  exact hfield.of_each heach

/-- A page of invoices that says its totals and the currency, and one with a new member instead. -/
example :
    let id : Option String × Tree := ("id", .text "i")
    let cents : Option String × Tree := ("amount_cents", .number (some (.whole 5)))
    let old : Tree := .record [("total", .number (some (.whole 0))),
      ("items", .list [.record [id, ("currency", .text "usd"), cents]])]
    let new : Tree := .record [("items", .list [.record [cents, ("paid", .bool true), id]])]
    let invoice : Invoice := ⟨"i", none, 5, "usd", "", none, none⟩
    let s := (page (.payload .invoice)).shape
    s.decode old = some ⟨[invoice], 0, 1, 0, false⟩ ∧ s.decode new = s.decode old := by
  decide

end Schema

end CodeHealth
