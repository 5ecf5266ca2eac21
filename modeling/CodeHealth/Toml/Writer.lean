import CodeHealth.Toml.Text

/-! Writing texts and whole numbers in TOML. A text stands as it is between apostrophes where
quotes would have to be escaped and nothing forbids it; it spans lines where it holds a line
feed. -/
namespace CodeHealth.Toml

/-- The longest run of apostrophes. -/
def apostrophes : Nat → List Char → Nat
  | run, [] => run
  | run, c :: r => if c = '\'' then apostrophes (run + 1) r else max run (apostrophes 0 r)

def isControl (c : Char) : Bool := c.toNat < 32 || c.toNat = 127

/-- Whether a text may stand as it is between apostrophes. -/
def standsAlone (cs : List Char) : Bool :=
  apostrophes 0 cs < 3 && cs.getLast? != some '\'' &&
    cs.all fun c => c == '\t' || c == '\n' || !isControl c

def hex4 (n : Nat) : List Char :=
  let digit (n : Nat) : Char := if n < 10 then Char.ofNat (48 + n) else Char.ofNat (55 + n)
  [digit (n / 4096 % 16), digit (n / 256 % 16), digit (n / 16 % 16), digit (n % 16)]

def escapeChar (c : Char) : List Char :=
  if c.toNat = 8 then ['\\', 'b']
  else if c = '\t' then ['\\', 't']
  else if c = '\n' then ['\n']
  else if c.toNat = 12 then ['\\', 'f']
  else if c = '\r' then ['\\', 'r']
  else if c = '"' then ['\\', '"']
  else if c = '\\' then ['\\', '\\']
  else if isControl c then '\\' :: 'u' :: hex4 c.toNat
  else [c]

def writeText (s : String) : List Char :=
  let cs := s.toList
  let spans := cs.contains '\n'
  if (cs.contains '"' || cs.contains '\\') && standsAlone cs then
    if spans then ['\'', '\'', '\'', '\n'] ++ cs ++ ['\'', '\'', '\'']
    else if cs.contains '\'' then ['\'', '\'', '\''] ++ cs ++ ['\'', '\'', '\'']
    else '\'' :: cs ++ ['\'']
  else if spans then ['"', '"', '"', '\n'] ++ cs.flatMap escapeChar ++ ['"', '"', '"']
  else '"' :: cs.flatMap escapeChar ++ ['"']

/-- Whole numbers above the signed range of 64 bits cannot be written. -/
def writeWhole (n : UInt64) : Option (List Char) :=
  if n.toNat < Nat.pow 2 63 then some (toString n.toNat).toList else none

end CodeHealth.Toml
