import CodeHealth.Number.Binary

/-! Numbers with a set number of decimal places. The exact binary value is rounded, a half to the
even neighbour. -/
namespace CodeHealth.Number

/-- `n` with `places` digits behind the point. -/
def pointed (n places : Nat) : List Char :=
  let ds := Nat.toDigits 10 n
  let ds := List.replicate (places + 1 - ds.length) '0' ++ ds
  if places = 0 then ds
  else ds.take (ds.length - places) ++ '.' :: ds.drop (ds.length - places)

def fixed (places : Nat) (x : Binary64) : String :=
  match x.reading with
  | .finite negative m q =>
    let r := scaleByTwo (m * Nat.pow 10 places) 1 q
    String.ofList ((if negative then ['-'] else []) ++ pointed (roundHalfEven r.1 r.2) places)
  | .infinite negative => if negative then "-inf" else "inf"
  | .notANumber => "NaN"

end CodeHealth.Number
