import CodeHealth.Number.Shortest

/-! How numbers are written in payloads: with the fewest digits that identify them, positionally
between `1e-5` and the format's limit, otherwise with a signed exponent. -/
namespace CodeHealth.Number

/-- The decisions of the layout: the positions of the decimal point that are written out. -/
structure PointRange where
  least : Int
  greatest : Int

/-- Payloads keep the point within sixteen digits, and up to four zeros behind it. -/
def payloadNotation : PointRange := ⟨-4, 16⟩

def digits (n : Nat) : List Char := Nat.toDigits 10 n

def zeros (n : Nat) : List Char := List.replicate n '0'

/-- A finite number `d · 10^e`, `d` without trailing zeros. -/
def layout (style : PointRange) (d : Nat) (e : Int) : List Char :=
  let ds := digits d
  let point : Int := ds.length + e
  if point < style.least ∨ style.greatest < point then
    let rest := ds.drop 1
    let x := point - 1
    ds.take 1 ++ (if rest.isEmpty then [] else '.' :: rest) ++
      'e' :: (if x < 0 then '-' else '+') :: digits x.natAbs
  else if 0 ≤ e then ds ++ zeros e.toNat ++ ['.', '0']
  else if 0 < point then ds.take point.toNat ++ '.' :: ds.drop point.toNat
  else '0' :: '.' :: zeros (-point).toNat ++ ds

/-- The text of a finite number; `none` for the others. -/
def write? (f : Format) (style : PointRange) : Reading → Option (List Char)
  | .finite negative m q =>
    let sign := if negative then ['-'] else []
    if m = 0 then some (sign ++ ['0', '.', '0'])
    else
      let x := Shortest.decimal f m q
      some (sign ++ layout style x.1 x.2)
  | _ => none

end CodeHealth.Number

namespace CodeHealth

open Number

def Binary64.text? (x : Binary64) : Option (List Char) := write? .binary64 payloadNotation x.reading

/-- Numbers of 32 bits keep the point within thirteen digits, and up to five zeros behind it. -/
def shortNotation : PointRange := ⟨-5, 13⟩

def Binary32.text? (x : Binary32) : Option (List Char) := write? .binary32 shortNotation x.reading

end CodeHealth
