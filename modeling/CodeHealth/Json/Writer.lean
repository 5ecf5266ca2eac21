import CodeHealth.Json.Value
import CodeHealth.Number.Layout

/-! JSON texts: compact, and laid out over indented lines. -/
namespace CodeHealth.Json

def hexDigit (n : Nat) : Char := if n < 10 then Char.ofNat (48 + n) else Char.ofNat (87 + n)

def escape (c : Char) : List Char :=
  if c = '"' then ['\\', '"']
  else if c = '\\' then ['\\', '\\']
  else if c = '\n' then ['\\', 'n']
  else if c = '\r' then ['\\', 'r']
  else if c = '\t' then ['\\', 't']
  else if c.toNat = 8 then ['\\', 'b']
  else if c.toNat = 12 then ['\\', 'f']
  else if c.toNat < 32 then ['\\', 'u', '0', '0', hexDigit (c.toNat / 16), hexDigit (c.toNat % 16)]
  else [c]

def quote (s : String) : List Char := '"' :: s.toList.flatMap escape ++ ['"']

def nullText : List Char := "null".toList

/-- The text of a value without parts. -/
def leaf : Json → List Char
  | bool b => if b then "true".toList else "false".toList
  | whole i => (toString i).toList
  | real x => x.text?.getD nullText
  | real32 x => x.text?.getD nullText
  | text s => quote s
  | _ => nullText

mutual
def compactChars : Json → List Char
  | list xs => '[' :: compactItems xs
  | record ms => '\x7b' :: compactMembers ms
  | v => leaf v
/-- The items of a list and the bracket that closes it. -/
def compactItems : List Json → List Char
  | [] => [']']
  | [x] => compactChars x ++ [']']
  | x :: y :: xs => compactChars x ++ ',' :: compactItems (y :: xs)
def compactMembers : List (String × Json) → List Char
  | [] => ['\x7d']
  | [(n, x)] => quote n ++ ':' :: compactChars x ++ ['\x7d']
  | (n, x) :: m :: ms => quote n ++ ':' :: compactChars x ++ ',' :: compactMembers (m :: ms)
end

def compact (v : Json) : String := String.ofList (compactChars v)

/-- A line break and the indentation of `depth` levels. -/
def newLine (depth : Nat) : List Char := '\n' :: List.replicate (2 * depth) ' '

mutual
def prettyChars (depth : Nat) : Json → List Char
  | list [] => ['[', ']']
  | list (x :: xs) =>
    '[' :: newLine (depth + 1) ++ prettyChars (depth + 1) x ++ prettyItems depth xs
  | record [] => ['\x7b', '\x7d']
  | record ((n, x) :: ms) =>
    '\x7b' :: newLine (depth + 1) ++ quote n ++ ':' :: ' ' :: prettyChars (depth + 1) x ++
      prettyMembers depth ms
  | v => leaf v
/-- The items after the first, and the bracket that closes the list. -/
def prettyItems (depth : Nat) : List Json → List Char
  | [] => newLine depth ++ [']']
  | x :: xs => ',' :: newLine (depth + 1) ++ prettyChars (depth + 1) x ++ prettyItems depth xs
def prettyMembers (depth : Nat) : List (String × Json) → List Char
  | [] => newLine depth ++ ['\x7d']
  | (n, x) :: ms =>
    ',' :: newLine (depth + 1) ++ quote n ++ ':' :: ' ' :: prettyChars (depth + 1) x ++
      prettyMembers depth ms
end

def pretty (v : Json) : String := String.ofList (prettyChars 0 v)

end CodeHealth.Json
