import CodeHealth.Number.Binary

/-! Reading decimal numerals. A numeral without point and exponent that fits 64 bits is a whole
number. Any other is a binary number: its leading digits, as many as fit an unsigned 64-bit word,
are scaled by one power of ten, so that two roundings are made at most where the exponent is
moderate. -/
namespace CodeHealth.Number

/-- The parts of a written number. -/
structure Numeral where
  negative : Bool
  whole : List Nat
  fraction : Option (List Nat)
  exponent : Option Int

inductive Scalar where
  | whole (i : Int)
  | real (x : Binary64)
  deriving DecidableEq

/-- The significand with the leading digits of `ds` that still fit 64 bits, and those left over. -/
def absorb (significand : Nat) : List Nat → Nat × List Nat
  | [] => (significand, [])
  | d :: ds =>
    if significand * 10 + d < UInt64.size then absorb (significand * 10 + d) ds
    else (significand, d :: ds)

/-- Powers of ten up to this one are scaled by in one step. -/
def largestPower : Nat := 308

def power (n : Nat) : Binary64 := .ofNat (Nat.pow 10 n)

/-- `x · 10^e`, or `none` where it is too large. Beyond the largest power the number is divided
repeatedly, which makes it zero within `n = 4` steps. -/
def scale (x : Binary64) (e : Int) : Nat → Option Binary64
  | 0 => some .zero
  | n + 1 =>
    if e.natAbs ≤ largestPower then
      if 0 ≤ e then
        let y := x.mul (power e.natAbs)
        if y.isFinite then some y else none
      else some (x.div (power e.natAbs))
    else if x.isZero then some x
    else if 0 ≤ e then none
    else scale (x.div (power largestPower)) (e + largestPower) n

def signed (negative : Bool) (x : Binary64) : Binary64 := if negative then x.negate else x

/-- The largest exponent that is told apart from larger ones. -/
def exponentLimit : Nat := Nat.pow 2 31

/-- The value of a numeral, `none` where it is too large for a binary number. -/
def Numeral.value (n : Numeral) : Option Scalar :=
  let (significand, left) := absorb 0 n.whole
  match n.fraction, n.exponent with
  | none, none =>
    if left.isEmpty then
      if !n.negative then some (.whole significand)
      else if significand = 0 ∨ Nat.pow 2 63 < significand then
        some (.real (signed true (.ofNat significand)))
      else some (.whole (-significand))
    else (scale (.ofNat significand) left.length 4).map fun x => .real (signed n.negative x)
  | fraction, exponent =>
    let fraction := fraction.getD []
    let (significand, unread) := absorb significand fraction
    let shift : Int := left.length - (fraction.length - unread.length : Nat)
    let e := exponent.getD 0
    if exponentLimit ≤ e.natAbs then
      if significand ≠ 0 ∧ 0 < e then none else some (.real (signed n.negative .zero))
    else (scale (.ofNat significand) (shift + e) 4).map fun x => .real (signed n.negative x)

end CodeHealth.Number
