import CodeHealth.Text.Casing.Classes
import CodeHealth.Text.Casing.Maps

/-! Lower and upper case of whole texts. A capital sigma becomes `ς` where it closes a word and
`σ` elsewhere; the other characters change one by one. -/
namespace CodeHealth.Text.Casing

def Run.covers (r : Run) (n : Nat) : Bool :=
  r.first ≤ n && n ≤ r.last && (n - r.first) % r.step == 0

/-- The code point that a table of runs gives for `n`. -/
def shifted (table : List Run) (n : Nat) : Nat :=
  match table.find? (·.covers n) with
  | some r => (n + r.shift).toNat
  | none => n

def within (ranges : List (Nat × Nat)) (c : Char) : Bool :=
  ranges.any fun r => r.1 ≤ c.toNat && c.toNat ≤ r.2

/-- The one lower case that is two characters: an `i` and a dot above. -/
def dottedCapitalI : Nat := 0x130

def lowerChar (c : Char) : List Char :=
  if c.toNat < 0x80 then [c.toLower]
  else if c.toNat = dottedCapitalI then ['i', Char.ofNat 0x307]
  else [Char.ofNat (shifted lowerRuns c.toNat)]

def upperChar (c : Char) : List Char :=
  if c.toNat < 0x80 then [c.toUpper]
  else match upperExpansions.lookup c.toNat with
    | some ns => ns.map Char.ofNat
    | none => [Char.ofNat (shifted upperRuns c.toNat)]

/-- Whether the first character that is not passed over has case. -/
def meetsCased (cs : List Char) : Bool :=
  match cs.dropWhile (within ignorableRanges) with
  | c :: _ => within casedRanges c
  | [] => false

def capitalSigma : Char := Char.ofNat 0x3A3

/-- Lower case of `cs`, where `before` holds the characters to the left, nearest first. -/
def lowerFrom (before : List Char) : List Char → List Char
  | [] => []
  | c :: r =>
    (if c = capitalSigma then
      if meetsCased before && !meetsCased r then [Char.ofNat 0x3C2] else [Char.ofNat 0x3C3]
    else lowerChar c) ++ lowerFrom (c :: before) r

end CodeHealth.Text.Casing

namespace CodeHealth.Text

def lower (s : String) : String := String.ofList (Casing.lowerFrom [] s.toList)

def upper (s : String) : String := String.ofList (s.toList.flatMap Casing.upperChar)

/-- The letter that a text is compared by when case does not matter, for comparison with ASCII
letters: the long s and the kelvin sign are the only others that fold to one. -/
def fold (c : Char) : Char :=
  if c.toNat = 0x17F then 's' else if c.toNat = 0x212A then 'k' else c.toLower

/-- Equality up to the case of ASCII letters. -/
def sameIgnoringAsciiCase (a b : String) : Bool :=
  a.toList.map Char.toLower == b.toList.map Char.toLower

end CodeHealth.Text
