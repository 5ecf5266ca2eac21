import CodeHealth.Number.Binary

/-! The fewest decimal digits that read back to a given binary number. A magnitude `m · 2^q` is
identified by the decimals of its rounding interval, which reaches half way to each neighbour and
owns its ends iff `m` is even. -/
namespace CodeHealth.Number.Shortest

/-- An interval of fractions over one denominator, with the number it surrounds. -/
structure Interval where
  low : Nat
  value : Nat
  high : Nat
  den : Nat
  closed : Bool

/-- The rounding interval of `m · 2^q`; below a power of two the lower neighbour is half as far. -/
def interval (f : Format) (m : Nat) (q : Int) : Interval :=
  let narrow := m == Nat.pow 2 f.fraction && q != f.least
  let low := if narrow then 4 * m - 1 else 4 * m - 2
  let value := 4 * m
  let high := 4 * m + 2
  let k := q - 2
  if 0 ≤ k then
    let s := Nat.pow 2 k.toNat
    ⟨low * s, value * s, high * s, 1, m % 2 == 0⟩
  else ⟨low, value, high, Nat.pow 2 (-k).toNat, m % 2 == 0⟩

/-- Whether the decimal `d · 10^e` lies in the interval. -/
def Interval.holds (i : Interval) (d : Nat) (e : Int) : Bool :=
  let (num, den) := if 0 ≤ e then (d * Nat.pow 10 e.toNat, 1) else (d, Nat.pow 10 (-e).toNat)
  let x := num * i.den
  let low := i.low * den
  let high := i.high * den
  if i.closed then low ≤ x && x ≤ high else low < x && x < high

/-- The number of decimal digits before the point of `value / den`; not positive below one. -/
def magnitude (value den : Nat) : Int :=
  let guess : Int := ((value.log2 : Int) - den.log2) * 30103 / 100000
  let reaches (e : Int) : Bool :=
    if 0 ≤ e then den * Nat.pow 10 e.toNat ≤ value else den ≤ value * Nat.pow 10 (-e).toNat
  -- the estimate is off by at most two
  if reaches (guess + 2) then guess + 3
  else if reaches (guess + 1) then guess + 2
  else if reaches guess then guess + 1
  else if reaches (guess - 1) then guess
  else guess - 1

/-- The better of the two neighbours of the value on the grid of multiples of `10^e`: the nearer
one, of equally near ones the even one, and only one that lies in the interval. -/
def onGrid (i : Interval) (e : Int) : Option Nat :=
  let (num, den) :=
    if 0 ≤ e then (i.value, i.den * Nat.pow 10 e.toNat)
    else (i.value * Nat.pow 10 (-e).toNat, i.den)
  let down := num / den
  let near := roundHalfEven num den
  let far := if near = down then down + 1 else down
  if i.holds near e then some near else if i.holds far e then some far else none

/-- The first grid, from coarse to fine, on which the interval has a point. -/
def search (i : Interval) (e : Int) : Nat → Nat × Int
  | 0 => (0, e)
  | n + 1 =>
    match onGrid i e with
    | some d => (d, e)
    | none => search i (e - 1) n

/-- The decimal `d · 10^e` with the fewest digits that identifies `m · 2^q`, for `m` not zero. -/
def decimal (f : Format) (m : Nat) (q : Int) : Nat × Int :=
  let i := interval f m q
  search i (magnitude i.value i.den) 20

end CodeHealth.Number.Shortest
