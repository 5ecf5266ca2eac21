import CodeHealth.Toml.Scalar

/-! Reading TOML files: statements, one per line, and the table that they make up. -/
namespace CodeHealth.Toml

open Number (isDecimal)

/-- Values may be nested less deeply than this. -/
def nestingLimit : Nat := 79

def skipSpace (cs : List Char) : List Char := cs.dropWhile isSpace

/-! ### Names -/

def isBare (c : Char) : Bool := c.isAlphanum || c == '-' || c == '_'

def simpleName (cs : List Char) : Option (String × List Char) :=
  match cs with
  | '"' :: _ => lineText cs
  | '\'' :: _ => lineText cs
  | cs =>
    match cs.takeWhile isBare with
    | [] => none
    | ds => some (String.ofList ds, cs.dropWhile isBare)

/-- The further parts of a dotted name, `n` at most. -/
def moreNames : Nat → List Char → Option (List String × List Char)
  | 0, _ => none
  | n + 1, cs =>
    match skipSpace cs with
    | '.' :: r => do
      let (s, r) ← simpleName (skipSpace r)
      let (ss, r) ← moreNames n r
      some (s :: ss, r)
    | _ => some ([], cs)

def nameOf (first : String) (more : List String) : Name :=
  match more.getLast? with
  | some last => ⟨first :: more.dropLast, last⟩
  | none => ⟨[], first⟩

def name (cs : List Char) : Option (Name × List Char) := do
  let (s, r) ← simpleName cs
  let (ss, r) ← moreNames (r.length + 1) r
  if ss.length + 1 ≤ nestingLimit then some (nameOf s ss, r) else none

/-! ### Comments and line ends -/

/-- What follows an optional comment; the line end is left. -/
def skipComment (cs : List Char) : List Char :=
  match cs with
  | '#' :: r => r.dropWhile isPlain
  | cs => cs

/-- Blanks, comments and line ends, as they may stand between the items of a list. -/
def skipGaps : Nat → List Char → List Char
  | 0, cs => cs
  | n + 1, cs =>
    let r := skipComment (skipSpace cs)
    match afterLineEnd r with
    | some r => skipGaps n r
    | none => if (skipSpace cs).head? = some '#' then cs else r

/-! ### Values -/

def word (cs : List Char) : Option (Toml × List Char) :=
  match cs with
  | 't' :: 'r' :: 'u' :: 'e' :: r => some (.flag true, r)
  | 'f' :: 'a' :: 'l' :: 's' :: 'e' :: r => some (.flag false, r)
  | _ => none

/-- A value without parts. -/
def leaf (cs : List Char) : Option (Toml × List Char) :=
  match cs with
  | '"' :: _ => (anyText cs).map fun p => (.text p.1, p.2)
  | '\'' :: _ => (anyText cs).map fun p => (.text p.1, p.2)
  | cs => dateOrTime cs <|> fractional cs <|> namedReal cs <|> wholeNumber cs <|> word cs

mutual
/-- A value nested at most `depth` deep; `n` bounds the steps. -/
def value : Nat → Nat → List Char → Option (Toml × List Char)
  | 0, _, _ => none
  | n + 1, depth, cs =>
    match cs, depth with
    | '[' :: _, 0 => none
    | '\x7b' :: _, 0 => none
    | '[' :: r, depth + 1 => (items n depth r).map fun p => (.list p.1, p.2)
    | '\x7b' :: r, depth + 1 => do
      let (ps, r) ← match skipSpace r with
        | '\x7d' :: r => some ([], r)
        | r => pairs n depth r
      some (← ofPairs ps, r)
    | cs, _ => leaf cs
/-- The items of a list up to its end; a comma may stand behind the last one. -/
def items : Nat → Nat → List Char → Option (List Toml × List Char)
  | 0, _, _ => none
  | n + 1, depth, cs =>
    match skipGaps cs.length cs with
    | ']' :: r => some ([], r)
    | cs => do
      let (v, r) ← value n depth cs
      match skipGaps r.length r with
      | ',' :: r => (items n depth r).map fun p => (v :: p.1, p.2)
      | ']' :: r => some ([v], r)
      | _ => none
/-- The pairs of an inline table up to its end, at least one, on one line. -/
def pairs : Nat → Nat → List Char → Option (List (Name × Toml) × List Char)
  | 0, _, _ => none
  | n + 1, depth, cs => do
    let (key, r) ← name (skipSpace cs)
    let r ← mark '=' (skipSpace r)
    let (v, r) ← value n depth (skipSpace r)
    match skipSpace r with
    | ',' :: r => (pairs n depth r).map fun p => ((key, v) :: p.1, p.2)
    | '\x7d' :: r => some ([(key, v)], r)
    | _ => none
end

/-! ### Statements -/

/-- What follows the end of a line, behind blanks and a comment. -/
def endLine (cs : List Char) : Option (List Char) :=
  match skipComment (skipSpace cs) with
  | [] => some []
  | cs => afterLineEnd cs

def statement (cs : List Char) : Option (Statement × List Char) :=
  match cs with
  | '[' :: '[' :: r => do
    let (n, r) ← name (skipSpace r)
    let r ← mark ']' (skipSpace r)
    let r ← mark ']' r
    some (.another n, r)
  | '[' :: r => do
    let (n, r) ← name (skipSpace r)
    let r ← mark ']' (skipSpace r)
    some (.header n, r)
  | cs => do
    let (n, r) ← name cs
    let r ← mark '=' (skipSpace r)
    let (v, r) ← value (2 * r.length + 2) nestingLimit (skipSpace r)
    some (.pair n v, r)

/-- All statements, `n` lines at most. -/
def statements : Nat → List Char → Option (List Statement)
  | 0, _ => none
  | n + 1, cs =>
    match skipSpace cs with
    | [] => some []
    | '#' :: r => do statements n (← endLine ('#' :: r))
    | c :: r =>
      match afterLineEnd (c :: r) with
      | some r => statements n r
      | none => do
        let (s, r) ← statement (c :: r)
        (statements n (← endLine r)).map (s :: ·)

def dropMark (cs : List Char) : List Char :=
  match cs with
  | c :: r => if c.toNat = 0xFEFF then r else cs
  | [] => []

/-- The table that a file spells. -/
def read (s : String) : Option Members := do
  let cs := dropMark s.toList
  ofStatements (← statements (cs.length + 1) cs)

end CodeHealth.Toml
