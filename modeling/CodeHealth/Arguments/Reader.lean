import CodeHealth.Arguments.Grammar

/-! Reading a command line by its grammar, argument by argument. A value is looked at only once it
is known to be complete: at the next option, at the next operand of another parameter, or at the
end. A command below is read to its end before the one above it is closed. -/
namespace CodeHealth.Arguments

variable {γ : Type}

/-- How far one command has been read. -/
structure Progress where
  given : Values := []
  /-- The parameter whose values are still coming in. -/
  pending : Option (Parameter × List String) := none
  /-- Whether everything that follows is an operand. -/
  onlyOperands : Bool := false
  /-- How many operands are complete. -/
  position : Nat := 0

namespace Progress

/-- Whether an option waits for its value. -/
def isWaiting (p : Progress) : Bool :=
  match p.pending with
  | some (_, []) => true
  | _ => false

/-- Enters values; only a parameter with many values may come twice. -/
def enter (p : Progress) (q : Parameter) (vs : List String) : Except Usage Progress :=
  if q.arity != .many && p.given.has q.name then .error .conflict
  else do
    let vs ← vs.mapM q.read
    .ok { p with given := p.given ++ vs.map (q.name, ·) }

/-- Enters the values that have come in so far. -/
def settle (p : Progress) : Except Usage Progress :=
  match p.pending with
  | none => .ok p
  | some (_, []) => .error .unsuitable
  | some (q, vs) => { p with pending := none }.enter q vs

/-- Reads `--name` or `--name=value`. -/
def takeLong (p : Progress) (options : List Parameter) (version : Bool) (name : String)
    (value : Option String) : Except Usage Progress :=
  match options.find? (·.name == name), value with
  | some q, value =>
    match q.arity, value with
    | .none, none => do
      let p ← p.settle
      if p.given.has q.name then .error .conflict
      else .ok { p with given := p.given ++ [(q.name, .truth true)] }
    | .none, some _ => .error .surplusValue
    | _, some v => do (← p.settle).enter q [v]
    | _, none => do .ok { ← p.settle with pending := some (q, []) }
  | none, some _ =>
    if name = "help" ∨ (version ∧ name = "version") then .error .surplusValue
    else .error .unknownArgument
  | none, none =>
    if name = "help" then do let _ ← p.settle; .error .help
    else if version ∧ name = "version" then do let _ ← p.settle; .error .version
    else .error .unknownArgument

/-- Reads a group of one-letter options; the first decides, as it ends the program. -/
def takeShort (p : Progress) (version : Bool) (letter : Char) : Except Usage Progress :=
  if letter = 'h' then do let _ ← p.settle; .error .help
  else if version ∧ letter = 'V' then do let _ ← p.settle; .error .version
  else .error .unknownArgument

/-- Reads an operand. -/
def takeOperand (p : Progress) (g : Grammar γ) (a : String) : Except Usage Progress :=
  match g.operands[p.position]? with
  | none =>
    if g.commands.isEmpty || (p.onlyOperands && g.isCommand a) then .error .unknownArgument
    else .error .unknownCommand
  | some q =>
    match q.arity, p.pending with
    | .many, some (r, vs) =>
      if r.name = q.name then .ok { p with pending := some (q, vs ++ [a]) }
      else do .ok { ← p.settle with pending := some (q, [a]) }
    | .many, none => .ok { p with pending := some (q, [a]) }
    | _, _ => do
      let p ← p.settle
      .ok { p with pending := some (q, [a]), position := p.position + 1 }

/-- The name and the value of a long option. -/
def splitLong (cs : List Char) : String × Option String :=
  (String.ofList (cs.takeWhile (· ≠ '=')),
    match cs.dropWhile (· ≠ '=') with
    | _ :: v => some (String.ofList v)
    | [] => none)

/-- Reads one argument that is not a command. -/
def take (p : Progress) (shared : List Parameter) (g : Grammar γ) (version : Bool) (a : String) :
    Except Usage Progress :=
  if p.onlyOperands then p.takeOperand g a
  else
    match a.toList with
    | ['-', '-'] => .ok { p with onlyOperands := true }
    | '-' :: '-' :: cs =>
      let (name, value) := splitLong cs
      p.takeLong (g.options ++ shared) version name value
    | '-' :: c :: _ => p.takeShort version c
    | _ =>
      match p.pending with
      | some (q, []) => .ok { p with pending := some (q, [a]) }
      | _ => p.takeOperand g a

/-- Whether what is given fits together and is all that is needed. -/
def check (p : Progress) (g : Grammar γ) : Except Usage Unit :=
  let given := g.parameters.filter fun q => p.given.has q.name
  if given.any fun q => q.excludes.any p.given.has then .error .conflict
  else if (g.parameters.any fun q => q.required && !p.given.has q.name) ||
      given.any (fun q => q.needs.any fun n => !p.given.has n) then .error .missing
  else .ok ()

end Progress

/-- What `help` followed by these words comes to. -/
def helpOn (g : Grammar γ) : List String → Usage
  | [] => .help
  | w :: ws =>
    match g.command? w with
    | some sub => helpOn sub ws
    | none => if g.isCommand w && ws.isEmpty then .help else .unknownCommand

/-- Reads the rest of a line from within the command `g`. Gives the values at all levels, the
innermost first, and what the line means. -/
def readFrom (shared : List Parameter) (isPreset : Bool) (g : Grammar γ) (isTop : Bool)
    (p : Progress) : List String → Except Usage (Values × γ)
  | [] => do
    let p ← p.settle
    match g.make with
    | none => .error (if p.given.isEmpty && !isPreset then .nothing else .missingCommand)
    | some make =>
      p.check g
      .ok (p.given, make p.given)
  | a :: rest =>
    if !p.onlyOperands && !p.isWaiting && g.isCommand a then
      match g.command? a with
      | none => .error (helpOn g rest)
      | some sub => do
        let (below, meaning) ← readFrom shared isPreset sub false {} rest
        let p ← p.settle
        p.check g
        .ok (below ++ p.given, meaning)
    else do readFrom shared isPreset g isTop (← p.take shared g isTop a) rest

/-- Reads a line. `isPreset` says that the environment gives one of the shared options. -/
def Program.read (program : Program γ) (isPreset : Bool) (line : List String) :
    Except Usage (Values × γ) :=
  readFrom program.shared isPreset program.top true {} line

end CodeHealth.Arguments
