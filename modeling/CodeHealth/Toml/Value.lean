/-! TOML values, and how the statements of a file build up a table of them. A table remembers how it
came about, since that decides who may still add to it. -/
namespace CodeHealth

/-- How a table came about: as a value, by its own header, by the header of a table inside it, or
by a dotted name. -/
inductive TableOrigin where
  | inline
  | header
  | implied
  | dotted
  deriving DecidableEq

/-- Numbers with a fraction and moments are not told apart further: nothing reads them. -/
inductive Toml where
  | text (s : String)
  | whole (i : Int)
  | real
  | flag (b : Bool)
  | moment
  | list (xs : List Toml)
  | table (origin : TableOrigin) (ms : List (String × Toml))
  | tables (ts : List (List (String × Toml)))
  deriving Inhabited

namespace Toml

abbrev Members := List (String × Toml)

/-- Changes the member of that name, or adds what `f none` gives. -/
def Members.alter (ms : Members) (name : String) (f : Option Toml → Option Toml) : Option Members :=
  match ms with
  | [] => (f none).map fun v => [(name, v)]
  | (n, v) :: ms =>
    if n = name then (f (some v)).map fun v => (n, v) :: ms
    else (Members.alter ms name f).map ((n, v) :: ·)

/-- Adds a member under a new name. -/
def Members.add (ms : Members) (name : String) (v : Toml) : Option Members :=
  ms.alter name fun
    | none => some v
    | some _ => none

/-- Changes the last of several tables. -/
def alterLast (f : Members → Option Members) : List Members → Option (List Members)
  | [] => none
  | [t] => (f t).map fun t => [t]
  | t :: u :: ts => (alterLast f (u :: ts)).map (t :: ·)

/-- Changes the table that a header path leads to. Tables on the way that are missing are implied;
of several tables the last one is meant. -/
def Members.within (ms : Members) : List String → (Members → Option Members) → Option Members
  | [], f => f ms
  | name :: path, f =>
    ms.alter name fun
      | none => (Members.within [] path f).map (.table .implied)
      | some (.table .inline _) => none
      | some (.table origin inner) => (Members.within inner path f).map (.table origin)
      | some (.tables ts) => (alterLast (fun t => Members.within t path f) ts).map .tables
      | some _ => none

/-- Adds a value under a dotted name. Only tables that no header has opened can be added to in this
way, and the innermost must itself come from a dotted name. -/
def Members.addDotted (ms : Members) : List String → String → Toml → Option Members
  | [], name, v => ms.add name v
  | [key], name, v =>
    ms.alter key fun
      | none => (Members.add [] name v).map (.table .dotted)
      | some (.table .dotted inner) => (Members.add inner name v).map (.table .dotted)
      | some _ => none
  | key :: path, name, v =>
    ms.alter key fun
      | none => (Members.addDotted [] path name v).map (.table .dotted)
      | some (.table .dotted inner) => (Members.addDotted inner path name v).map (.table .dotted)
      | some (.table .implied inner) => (Members.addDotted inner path name v).map (.table .implied)
      | some (.tables ts) => (alterLast (fun t => Members.addDotted t path name v) ts).map .tables
      | some _ => none

/-- Opens the table of a header; only an implied one may be there already. -/
def Members.open (ms : Members) (name : String) : Option Members :=
  ms.alter name fun
    | none => some (.table .header [])
    | some (.table .implied inner) => some (.table .header inner)
    | some _ => none

/-- Opens one more of several tables. -/
def Members.openAnother (ms : Members) (name : String) : Option Members :=
  ms.alter name fun
    | none => some (.tables [[]])
    | some (.tables ts) => some (.tables (ts ++ [[]]))
    | some _ => none

/-- A dotted name: the path and the last part. -/
structure Name where
  path : List String
  last : String

def Name.all (n : Name) : List String := n.path ++ [n.last]

inductive Statement where
  | pair (name : Name) (value : Toml)
  | header (name : Name)
  | another (name : Name)

/-- A table with the path of the header that was met last. -/
structure Draft where
  root : Members
  current : List String

def Draft.apply (d : Draft) : Statement → Option Draft
  | .pair n v => do
    let root ← d.root.within d.current fun t => t.addDotted n.path n.last v
    some { d with root }
  | .header n => do
    let root ← d.root.within n.path fun t => t.open n.last
    some ⟨root, n.all⟩
  | .another n => do
    let root ← d.root.within n.path fun t => t.openAnother n.last
    some ⟨root, n.all⟩

/-- The table that the statements of a file make up. -/
def ofStatements (ss : List Statement) : Option Members :=
  (ss.foldlM Draft.apply ⟨[], []⟩).map (·.root)

/-- The value of `name = value` pairs between braces. -/
def ofPairs (ps : List (Name × Toml)) : Option Toml :=
  (ps.foldlM (fun (ms : Members) p => ms.addDotted p.1.path p.1.last p.2) []).map (.table .inline)

end Toml

end CodeHealth
