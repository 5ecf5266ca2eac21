import CodeHealth.Json.Token
import CodeHealth.Json.Value

/-! What a JSON text spells, before anything is made of it: members in written order with
repetitions, and tokens that denote nothing. A tree is built by one step per token. -/
namespace CodeHealth.Json

open Number

inductive Tree where
  | null
  | bool (b : Bool)
  | number (x : Option Scalar)
  | text (s : Option String)
  | list (xs : List Tree)
  | record (ms : List (Option String × Tree))
  deriving Inhabited

namespace Tree

/-- A list, a record or a member that is not complete. Parts are kept last first. -/
inductive Frame where
  | list (done : List Tree)
  | record (done : List (Option String × Tree))
  | member (name : Option String)

/-- What has to come next inside the innermost frame. -/
inductive Expect where
  | value
  | itemOrClose
  | nameOrClose
  | name
  | colon
  | rest (complete : Tree)

abbrev Progress := List Frame × Expect

/-- A value that begins with the given token. -/
def start (frames : List Frame) : Token → Option Progress
  | .null => some (frames, .rest .null)
  | .bool b => some (frames, .rest (.bool b))
  | .number x => some (frames, .rest (.number x))
  | .text s => some (frames, .rest (.text s))
  | .listOpen => some (.list [] :: frames, .itemOrClose)
  | .recordOpen => some (.record [] :: frames, .nameOrClose)
  | _ => none

def step : Progress → Token → Option Progress
  | (frames, .value), tok => start frames tok
  | (.list _ :: frames, .itemOrClose), .listClose => some (frames, .rest (.list []))
  | (frames, .itemOrClose), tok => start frames tok
  | (.record _ :: frames, .nameOrClose), .recordClose => some (frames, .rest (.record []))
  | (frames, .nameOrClose), .text s => some (.member s :: frames, .colon)
  | (frames, .name), .text s => some (.member s :: frames, .colon)
  | (frames, .colon), .colon => some (frames, .value)
  | (.list done :: frames, .rest t), .comma => some (.list (t :: done) :: frames, .value)
  | (.list done :: frames, .rest t), .listClose =>
    some (frames, .rest (.list (t :: done).reverse))
  | (.member s :: .record done :: frames, .rest t), .comma =>
    some (.record ((s, t) :: done) :: frames, .name)
  | (.member s :: .record done :: frames, .rest t), .recordClose =>
    some (frames, .rest (.record ((s, t) :: done).reverse))
  | _, _ => none

def ofTokens (toks : List Token) : Option Tree := do
  match ← toks.foldlM step ([], .value) with
  | ([], .rest t) => some t
  | _ => none

/-- The tree that a text spells. -/
def read (s : String) : Option Tree := do ofTokens (← Token.ofChars s.toList)

mutual
/-- How deeply lists and records are nested. -/
def depth : Tree → Nat
  | list xs => depthOfItems xs + 1
  | record ms => depthOfMembers ms + 1
  | _ => 0
def depthOfItems : List Tree → Nat
  | [] => 0
  | t :: ts => max (depth t) (depthOfItems ts)
def depthOfMembers : List (Option String × Tree) → Nat
  | [] => 0
  | (_, t) :: ms => max (depth t) (depthOfMembers ms)
end

def ofScalar : Scalar → Json
  | .whole i => .whole i
  | .real x => .real x

mutual
/-- The plain value that a tree denotes, if all its tokens denote something. -/
def value? : Tree → Option Json
  | null => some .null
  | bool b => some (.bool b)
  | number x => x.map ofScalar
  | text s => s.map .text
  | list xs => (values? xs).map .list
  | record ms => (members? ms).map fun ms => .record (ofMembers ms)
def values? : List Tree → Option (List Json)
  | [] => some []
  | t :: ts => do
    let v ← value? t
    let vs ← values? ts
    some (v :: vs)
def members? : List (Option String × Tree) → Option (List (String × Json))
  | [] => some []
  | (s, t) :: ms => do
    let s ← s
    let v ← value? t
    let vs ← members? ms
    some ((s, v) :: vs)
end

/-- Lists and records may be nested this deeply in a value that is kept as it is. -/
def nestingLimit : Nat := 127

/-- The plain value of a tree that is nested at most `limit` deep. -/
def plain? (limit : Nat) (t : Tree) : Option Json :=
  if t.depth ≤ limit then t.value? else none

end Tree

/-- The plain value that a text spells. -/
def read (s : String) : Option Json := do Tree.plain? Tree.nestingLimit (← Tree.read s)

mutual
/-- A value as a tree, to be decoded like a text. -/
def tree : Json → Tree
  | null => .null
  | bool b => .bool b
  | whole i => .number (some (.whole i))
  | real x => .number (some (.real x))
  | real32 x => .number (some (.real x.widen))
  | text s => .text (some s)
  | list xs => .list (treeAll xs)
  | record ms => .record (treeMembers ms)
def treeAll : List Json → List Tree
  | [] => []
  | x :: xs => tree x :: treeAll xs
def treeMembers : List (String × Json) → List (Option String × Tree)
  | [] => []
  | (n, x) :: ms => (some n, tree x) :: treeMembers ms
end

end CodeHealth.Json
