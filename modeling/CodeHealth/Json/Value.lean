import CodeHealth.Number.Binary
import CodeHealth.Text.Bytes

/-! JSON values. Members keep the order in which they are written; the *plain* form of a value, in
which data is kept and compared, has them sorted by the bytes of their names, the last of repeated
names only, and all binary numbers in 64 bits. -/
namespace CodeHealth

inductive Json where
  | null
  | bool (b : Bool)
  | whole (i : Int)
  | real (x : Binary64)
  | real32 (x : Binary32)
  | text (s : String)
  | list (xs : List Json)
  | record (ms : List (String × Json))
  deriving Inhabited, BEq

namespace Json

/-- Members in ascending order with one more; it replaces one of the same name. -/
def insert {α : Type} (name : String) (v : α) : List (String × α) → List (String × α)
  | [] => [(name, v)]
  | (n, w) :: ms =>
    match Text.order name n with
    | .lt => (name, v) :: (n, w) :: ms
    | .eq => (name, v) :: ms
    | .gt => (n, w) :: insert name v ms

def ofMembers {α : Type} (ms : List (String × α)) : List (String × α) :=
  ms.foldl (fun sorted m => insert m.1 m.2 sorted) []

mutual
def plain : Json → Json
  | null => null
  | bool b => bool b
  | whole i => whole i
  | real x => if x.isFinite then real x else null
  | real32 x => if x.isFinite then real x.widen else null
  | text s => text s
  | list xs => list (plainAll xs)
  | record ms => record (ofMembers (plainMembers ms))
def plainAll : List Json → List Json
  | [] => []
  | x :: xs => plain x :: plainAll xs
def plainMembers : List (String × Json) → List (String × Json)
  | [] => []
  | (n, x) :: ms => (n, plain x) :: plainMembers ms
end

/-- The member `name` of a record. -/
def get? (name : String) : Json → Option Json
  | record ms => ms.lookup name
  | _ => none

def text? : Json → Option String
  | text s => some s
  | _ => none

end Json

end CodeHealth
