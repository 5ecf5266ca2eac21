import CodeHealth.Number.Digits

/-! Texts in TOML: between quotes with escapes, between apostrophes as they stand, and the forms of
both that span lines. -/
namespace CodeHealth.Toml

open Number (hexValue)

def isSpace (c : Char) : Bool := c == ' ' || c == '\t'

/-- Characters other than line ends that may stand as they are. -/
def isPlain (c : Char) : Bool := c == '\t' || (32 ≤ c.toNat && c.toNat != 127)

def hexNumber (cs : List Char) : Option Nat :=
  cs.foldlM (fun n c => (hexValue c).map (16 * n + ·)) 0

/-- The character of a code point, unless it is half of a surrogate pair or out of range. -/
def scalar? (n : Nat) : Option Char :=
  if n < 0xD800 ∨ (0xE000 ≤ n ∧ n < 0x110000) then some (Char.ofNat n) else none

def escaped (c : Char) : Option Char :=
  match c with
  | 'b' => some (Char.ofNat 8)
  | 't' => some '\t'
  | 'n' => some '\n'
  | 'f' => some (Char.ofNat 12)
  | 'r' => some '\r'
  | '"' => some '"'
  | '\\' => some '\\'
  | _ => none

def push (c : Char) (p : Option (List Char × List Char)) : Option (List Char × List Char) :=
  p.map fun p => (c :: p.1, p.2)

/-- The character that an escape stands for, and what follows it. -/
def escape : List Char → Option (Char × List Char)
  | 'u' :: a :: b :: c :: d :: r => do some (← scalar? (← hexNumber [a, b, c, d]), r)
  | 'U' :: a :: b :: c :: d :: e :: f :: g :: h :: r => do
    some (← scalar? (← hexNumber [a, b, c, d, e, f, g, h]), r)
  | c :: r => (escaped c).map (·, r)
  | [] => none

/-- The rest of a text between quotes, `n` characters at most. -/
def quoted : Nat → List Char → Option (List Char × List Char)
  | 0, _ => none
  | _, [] => none
  | n + 1, c :: r =>
    if c = '"' then some ([], r)
    else if c = '\\' then (escape r).bind fun p => push p.1 (quoted n p.2)
    else if isPlain c then push c (quoted n r)
    else none

/-- The rest of a text between apostrophes. -/
def apostropheText : List Char → Option (List Char × List Char)
  | [] => none
  | c :: r =>
    if c = '\'' then some ([], r)
    else if isPlain c then push c (apostropheText r)
    else none

/-- Three closing marks, before which one or two more belong to the text. -/
def closing (mark : Char) (cs : List Char) : Option (List Char × List Char) :=
  match (cs.take 5).takeWhile (· == mark) with
  | [_, _, _] => some ([], cs.drop 3)
  | [a, _, _, _] => some ([a], cs.drop 4)
  | [a, b, _, _, _] => some ([a, b], cs.drop 5)
  | _ => none

/-- What follows a line end. -/
def afterLineEnd : List Char → Option (List Char)
  | '\n' :: r => some r
  | '\r' :: '\n' :: r => some r
  | _ => none

/-- Blanks and line ends. -/
def skipLines : List Char → List Char
  | '\n' :: r => skipLines r
  | '\r' :: '\n' :: r => skipLines r
  | ' ' :: r => skipLines r
  | '\t' :: r => skipLines r
  | cs => cs

/-- What follows a backslash that joins lines: blanks, a line end, then blanks and line ends. -/
def joined (cs : List Char) : Option (List Char) :=
  (afterLineEnd (cs.dropWhile isSpace)).map skipLines

/-- The rest of a text over several lines. -/
def quotedLines : Nat → List Char → Option (List Char × List Char)
  | 0, _ => none
  | _, [] => none
  | n + 1, c :: r =>
    match closing '"' (c :: r), afterLineEnd (c :: r) with
    | some p, _ => some p
    | none, some r => push '\n' (quotedLines n r)
    | none, none =>
      if c = '\\' then
        match joined r with
        | some r => quotedLines n r
        | none => (escape r).bind fun p => push p.1 (quotedLines n p.2)
      else if isPlain c then push c (quotedLines n r)
      else none

def literalLines : Nat → List Char → Option (List Char × List Char)
  | 0, _ => none
  | _, [] => none
  | n + 1, c :: r =>
    match closing '\'' (c :: r), afterLineEnd (c :: r) with
    | some p, _ => some p
    | none, some r => push '\n' (literalLines n r)
    | none, none => if isPlain c then push c (literalLines n r) else none

def dropLineEnd (cs : List Char) : List Char := (afterLineEnd cs).getD cs

def ofChars (p : Option (List Char × List Char)) : Option (String × List Char) :=
  p.map fun p => (String.ofList p.1, p.2)

/-- A text on one line. -/
def lineText (cs : List Char) : Option (String × List Char) :=
  match cs with
  | '"' :: r => ofChars (quoted (r.length + 1) r)
  | '\'' :: r => ofChars (apostropheText r)
  | _ => none

def anyText (cs : List Char) : Option (String × List Char) :=
  match cs with
  | '"' :: '"' :: '"' :: r => ofChars (quotedLines (r.length + 1) (dropLineEnd r))
  | '\'' :: '\'' :: '\'' :: r => ofChars (literalLines (r.length + 1) (dropLineEnd r))
  | cs => lineText cs

end CodeHealth.Toml
