import CodeHealth.Calendar.Timestamp
import CodeHealth.Json.Tree
import CodeHealth.Json.Writer
import CodeHealth.Label

/-! Shapes describe how a type of payload is written as JSON; one description serves both
directions. A record may hold members that its shape does not name, and may leave out those that
have a default; it may also be given as the list of its fields. -/
namespace CodeHealth

open Json (Tree)
open Number (Scalar)

/-- A type of whole numbers of limited range. -/
structure WholeRange (α : Type) where
  toInt : α → Int
  ofInt? : Int → Option α
  ofInt?_toInt : ∀ a, ofInt? (toInt a) = some a

/-- A type as a nested tuple of its fields, which are all that there is to it. -/
structure View (α β : Type) where
  fields : α → β
  make : β → α
  make_fields : ∀ a, make (fields a) = a
  fields_make : ∀ b, fields (make b) = b

mutual
inductive Shape : Type → Type 1 where
  | unit : Shape Unit
  | flag : Shape Bool
  | text : Shape String
  | whole {α : Type} (range : WholeRange α) : Shape α
  | real : Shape Binary64
  | real32 : Shape Binary32
  | instant : Shape Instant
  | choice {α : Type} (label : Label α) : Shape α
  | any (nesting : Nat) : Shape Json
  | option {α : Type} (s : Shape α) : Shape (Option α)
  | list {α : Type} (s : Shape α) : Shape (List α)
  | record {α β : Type} (fields : Fields β) (view : View α β) : Shape α
/-- The fields of a record in order: name, shape, and the value that a missing one takes. -/
inductive Fields : Type → Type 1 where
  | nil : Fields Unit
  | cons {α β : Type} (name : String) (s : Shape α) (absent : Option α) (rest : Fields β) :
      Fields (α × β)
end

namespace WholeRange

def uint8 : WholeRange UInt8 where
  toInt a := a.toNat
  ofInt? i := if (UInt8.ofNat i.toNat).toNat = i then some (UInt8.ofNat i.toNat) else none
  ofInt?_toInt a := by simp

def uint32 : WholeRange UInt32 where
  toInt a := a.toNat
  ofInt? i := if (UInt32.ofNat i.toNat).toNat = i then some (UInt32.ofNat i.toNat) else none
  ofInt?_toInt a := by simp

def uint64 : WholeRange UInt64 where
  toInt a := a.toNat
  ofInt? i := if (UInt64.ofNat i.toNat).toNat = i then some (UInt64.ofNat i.toNat) else none
  ofInt?_toInt a := by simp

def int64 : WholeRange Int64 where
  toInt a := a.toInt
  ofInt? i := if (Int64.ofInt i).toInt = i then some (Int64.ofInt i) else none
  ofInt?_toInt a := by simp

end WholeRange

namespace Shape

def uint8 : Shape UInt8 := .whole .uint8
def uint32 : Shape UInt32 := .whole .uint32
def uint64 : Shape UInt64 := .whole .uint64
def int64 : Shape Int64 := .whole .int64

/-- The number that a tree denotes, as a whole number if it is written as one. -/
def scalar? : Tree → Option Scalar
  | .number x => x
  | _ => none

/-- The name that a tree gives to a value of an enumeration: as a text, or as the only member of a
record. -/
def name? : Tree → Option String
  | .text s => s
  | .record [(s, .null)] => s
  | _ => none

mutual
def decode {α : Type} : Shape α → Tree → Option α
  | .unit, t => match t with | .null => some () | _ => none
  | .flag, t => match t with | .bool b => some b | _ => none
  | .text, t => match t with | .text s => s | _ => none
  | .whole range, t => match scalar? t with | some (.whole i) => range.ofInt? i | _ => none
  | .real, t => (scalar? t).map fun | .whole i => .ofInt i | .real x => x
  | .real32, t => (scalar? t).map fun | .whole i => .ofInt i | .real x => .ofBinary64 x
  | .instant, t => match t with | .text s => s.bind Instant.read | _ => none
  | .choice label, t => (name? t).bind label.find?
  | .any nesting, t => t.plain? nesting
  | .option s, t => match t with | .null => some none | t => (decode s t).map some
  | .list s, t => match t with | .list ts => ts.mapM (decode s) | _ => none
  | .record fields view, t =>
    match t with
    | .record ms =>
      if ms.all (·.1.isSome) then (Fields.decode fields ms).map view.make else none
    | .list ts => (Fields.decodeList fields ts).map view.make
    | _ => none
/-- The fields by name; a field may not be given twice. -/
def Fields.decode {β : Type} : Fields β → List (Option String × Tree) → Option β
  | .nil, _ => some ()
  | .cons name s absent rest, ms =>
    match ms.filter (·.1 == some name) with
    | [] => do some (← absent, ← Fields.decode rest ms)
    | [m] => do some (← decode s m.2, ← Fields.decode rest ms)
    | _ => none
/-- The fields by position; the last ones may be missing. -/
def Fields.decodeList {β : Type} : Fields β → List Tree → Option β
  | .nil, ts => if ts.isEmpty then some () else none
  | .cons _ s absent rest, ts =>
    match ts with
    | [] => do some (← absent, ← Fields.decodeList rest [])
    | t :: ts => do some (← decode s t, ← Fields.decodeList rest ts)
end

mutual
def encode {α : Type} : Shape α → α → Json
  | .unit, _ => .null
  | .flag, b => .bool b
  | .text, s => .text s
  | .whole range, i => .whole (range.toInt i)
  | .real, x => if x.isFinite then .real x else .null
  | .real32, x => if x.isFinite then .real32 x else .null
  | .instant, t => .text t.write
  | .choice label, a => .text (label.name a)
  | .any _, v => v
  | .option s, v => match v with | none => .null | some a => encode s a
  | .list s, xs => .list (xs.map (encode s))
  | .record fields view, a => .record (Fields.encode fields (view.fields a))
def Fields.encode {β : Type} : Fields β → β → List (String × Json)
  | .nil, _ => []
  | .cons name s _ rest, v => (name, encode s v.1) :: Fields.encode rest v.2
end

/-- The value that a JSON text denotes. -/
def read {α : Type} (s : Shape α) (text : String) : Option α := do s.decode (← Tree.read text)

/-- The value that a plain JSON value denotes. -/
def ofJson {α : Type} (s : Shape α) (v : Json) : Option α := s.decode v.tree

/-- A value as plain JSON, in which form it is kept. -/
def toPlain {α : Type} (s : Shape α) (a : α) : Json := (s.encode a).plain

end Shape

end CodeHealth
