import CodeHealth.Json.Shape

/-! Pages of long lists: what is asked for and what comes back. -/
namespace CodeHealth

inductive SortDirection where
  | asc
  | desc
  deriving DecidableEq

namespace SortDirection

instance : Label SortDirection where
  all := [asc, desc]
  name
    | asc => "asc"
    | desc => "desc"
  mem_all a := by cases a <;> simp
  name_injective a b h := by cases a <;> cases b <;> simp_all

def shape : Shape SortDirection := .choice inferInstance

end SortDirection

/-- Which page of a list is wanted, and in which order. Pages count from one. -/
structure ListParams where
  page : UInt32 := 1
  pageSize : UInt32 := 20
  sortBy : Option String := none
  direction : SortDirection := .desc
  deriving DecidableEq, Inhabited

namespace ListParams

/-- A page number that is at least one. -/
def clamp (page : UInt32) : UInt32 := if page = 0 then 1 else page

def ofPage (page size : UInt32) : ListParams := { page := clamp page, pageSize := size }

end ListParams

structure Page (α : Type) where
  items : List α
  total : UInt64
  page : UInt32
  pageSize : UInt32
  hasMore : Bool
  deriving DecidableEq

namespace Page

def shape {α : Type} (s : Shape α) : Shape (Page α) :=
  .record
    (.cons "items" (.list s) none <|
    .cons "total" .uint64 (some 0) <|
    .cons "page" .uint32 (some 1) <|
    .cons "page_size" .uint32 (some 0) <|
    .cons "has_more" .flag (some false) .nil)
    { fields := fun v => (v.items, v.total, v.page, v.pageSize, v.hasMore, ())
      make := fun (a, b, c, d, e, ()) => ⟨a, b, c, d, e⟩
      make_fields := fun _ => rfl
      fields_make := fun _ => rfl }

/-- How many pages the whole list fills; at least one. -/
def totalPages {α : Type} (p : Page α) : Nat :=
  if p.pageSize = 0 then 1
  else max 1 ((p.total.toNat + p.pageSize.toNat - 1) / p.pageSize.toNat)

end Page

end CodeHealth
