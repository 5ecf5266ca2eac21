/-! Digits, and the plain numbers that users write with them. -/
namespace CodeHealth.Number

def isDecimal (c : Char) : Bool := '0' ≤ c && c ≤ '9'

/-- The value of a hexadecimal digit. -/
def hexValue (c : Char) : Option Nat :=
  if isDecimal c then some (c.toNat - 48)
  else if 'a' ≤ c && c ≤ 'f' then some (c.toNat - 87)
  else if 'A' ≤ c && c ≤ 'F' then some (c.toNat - 55)
  else none

def ofDecimals (ds : List Char) : Nat := ds.foldl (fun n d => 10 * n + (d.toNat - 48)) 0

/-- The digits of a number, without the plus sign that may stand before them. -/
def unsigned : List Char → List Char
  | '+' :: ds => ds
  | ds => ds

/-- A decimal number with an optional plus sign. -/
def natural? (s : String) : Option Nat :=
  let ds := unsigned s.toList
  if ds.isEmpty || !ds.all isDecimal then none else some (ofDecimals ds)

/-- A decimal number with an optional sign. -/
def integer? (s : String) : Option Int :=
  match s.toList with
  | '-' :: ds => if ds.isEmpty || !ds.all isDecimal then none else some (-ofDecimals ds)
  | _ => (natural? s).map fun n => (n : Int)

end CodeHealth.Number
