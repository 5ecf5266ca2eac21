import CodeHealth.Json.Shape
import CodeHealth.Number.Digits

/-! Grammars of command lines: a tree of commands with options and operands. What a complete line
means is given at the leaves. -/
namespace CodeHealth.Arguments

/-- Why arguments are not run as a command. -/
inductive Usage where
  | help
  | version
  /-- Nothing at all is given where a command has to follow. -/
  | nothing
  | missingCommand
  | unknownCommand
  | unknownArgument
  /-- A value that belongs to nothing: an option without values has one. -/
  | surplusValue
  /-- A value is missing, or it is none of those that are allowed. -/
  | unsuitable
  /-- A value was refused, perhaps with a reason. -/
  | refused (reason : Option String)
  | conflict
  | missing
  deriving DecidableEq

namespace Usage

/-- Asking for help or for the version is no mistake. -/
def exitCode : Usage → Nat
  | help => 0
  | version => 0
  | _ => 2

end Usage

/-- A value that has been read. -/
inductive Given where
  | text (s : String)
  | number (n : UInt32)
  | truth (b : Bool)
  deriving DecidableEq

/-- Values by the name of their parameter, in the order of the line. -/
abbrev Values := List (String × Given)

namespace Values

def has (vs : Values) (name : String) : Bool := vs.any (·.1 == name)

def texts (vs : Values) (name : String) : List String :=
  vs.filterMap fun
    | (n, .text s) => if n = name then some s else none
    | _ => none

def text? (vs : Values) (name : String) : Option String := (vs.texts name).head?

def text (vs : Values) (name : String) : String := (vs.text? name).getD ""

def number (vs : Values) (name : String) (absent : UInt32) : UInt32 :=
  match vs.lookup name with
  | some (.number n) => n
  | _ => absent

def truth (vs : Values) (name : String) : Bool := vs.lookup name == some (.truth true)

end Values

/-! ### Values -/

/-- How the text of a value is read. -/
abbrev Reading := String → Except Usage Given

namespace Reading

def any : Reading := fun s => .ok (.text s)

def among (words : List String) : Reading := fun s =>
  if words.contains s then .ok (.text s) else .error .unsuitable

def truth : Reading := fun
  | "true" => .ok (.truth true)
  | "false" => .ok (.truth false)
  | _ => .error .unsuitable

/-- A whole number that fits an unsigned 32-bit word. -/
def count : Reading := fun s =>
  match (Number.integer? s).bind WholeRange.uint32.ofInt? with
  | some n => .ok (.number n)
  | none => .error (.refused none)

/-- A number that says itself what is wrong with it. -/
def counted (trouble : UInt32 → Option String) : Reading := fun s =>
  match (Number.natural? s).bind fun n => WholeRange.uint32.ofInt? n with
  | none => .error (.refused (some ("'" ++ s ++ "' is not a valid number")))
  | some n =>
    match trouble n with
    | some reason => .error (.refused (some reason))
    | none => .ok (.number n)

end Reading

/-! ### Commands -/

/-- How many values a parameter takes. -/
inductive Arity where
  | none
  | one
  | many
  deriving DecidableEq

/-- An option, or an operand that is known by its position. -/
structure Parameter where
  name : String
  arity : Arity := .one
  read : Reading := .any
  required : Bool := false
  /-- What has to be given with it. -/
  needs : List String := []
  /-- What must not be given with it. -/
  excludes : List String := []

/-- A command with its own commands. Without `make` one of those has to follow. -/
structure Grammar (γ : Type) where
  name : String
  options : List Parameter := []
  operands : List Parameter := []
  commands : List (Grammar γ) := []
  make : Option (Values → γ) := none

namespace Grammar

variable {γ : Type}

def command? (g : Grammar γ) (name : String) : Option (Grammar γ) :=
  g.commands.find? (·.name == name)

/-- Whether `name` may follow as a command; any command that has others has one for help. -/
def isCommand (g : Grammar γ) (name : String) : Bool :=
  !g.commands.isEmpty && (name == "help" || (g.command? name).isSome)

def parameters (g : Grammar γ) : List Parameter := g.options ++ g.operands

end Grammar

/-- A whole program: what every command understands, and the commands. -/
structure Program (γ : Type) where
  shared : List Parameter
  top : Grammar γ

end CodeHealth.Arguments
