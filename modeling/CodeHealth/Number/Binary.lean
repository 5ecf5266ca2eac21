/-! Binary floating point numbers by their bits. A number is `± m · 2^q` with exact natural
arithmetic on `m` and `q`; every operation rounds once, to nearest, ties to even. -/
namespace CodeHealth.Number

/-- A binary interchange format: the widths of the fraction field and of the exponent field. -/
structure Format where
  fraction : Nat
  exponent : Nat
  deriving DecidableEq

namespace Format

def binary64 : Format := ⟨52, 11⟩

def binary32 : Format := ⟨23, 8⟩

/-- The exponent field of the infinities and of the values that are not numbers. -/
def top (f : Format) : Nat := Nat.pow 2 f.exponent - 1

/-- The least exponent of two, that of the subnormal numbers. -/
def least (f : Format) : Int := 2 - Nat.pow 2 (f.exponent - 1) - f.fraction

def signBit (f : Format) : Nat := Nat.pow 2 (f.fraction + f.exponent)

/-- The bits of infinity. -/
def infinity (f : Format) : Nat := f.top * Nat.pow 2 f.fraction

end Format

/-- What the bits of a number say. A finite one is `± m · 2^q`. -/
inductive Reading where
  | finite (negative : Bool) (m : Nat) (q : Int)
  | infinite (negative : Bool)
  | notANumber
  deriving DecidableEq

def read (f : Format) (bits : Nat) : Reading :=
  let negative := bits / f.signBit % 2 == 1
  let e := bits / Nat.pow 2 f.fraction % Nat.pow 2 f.exponent
  let m := bits % Nat.pow 2 f.fraction
  if e = f.top then if m = 0 then .infinite negative else .notANumber
  else if e = 0 then .finite negative m f.least
  else .finite negative (Nat.pow 2 f.fraction + m) (f.least + (e - 1 : Nat))

/-- `num / den` rounded to a whole number, a half to the even neighbour. -/
def roundHalfEven (num den : Nat) : Nat :=
  let n := num / den
  let twice := 2 * (num % den)
  if twice < den || (twice == den && n % 2 == 0) then n else n + 1

/-- `num / den · 2^k` as a fraction of naturals. -/
def scaleByTwo (num den : Nat) (k : Int) : Nat × Nat :=
  if 0 ≤ k then (num * Nat.pow 2 k.toNat, den) else (num, den * Nat.pow 2 (-k).toNat)

/-- The bits of the magnitude nearest to `num / den`; infinity where that is too large. -/
def nearest (f : Format) (num den : Nat) : Nat :=
  if num = 0 then 0
  else
    let t : Int := (num.log2 : Int) - den.log2
    let scaled := scaleByTwo num den (-t)
    let t := if scaled.2 ≤ scaled.1 then t else t - 1
    let q := max (t - f.fraction) f.least
    let x := scaleByTwo num den (-q)
    min f.infinity ((q - f.least).toNat * Nat.pow 2 f.fraction + roundHalfEven x.1 x.2)

def withSign (f : Format) (negative : Bool) (magnitude : Nat) : Nat :=
  if negative then f.signBit + magnitude else magnitude

end CodeHealth.Number

namespace CodeHealth

open Number

/-- A 64-bit binary floating point number. -/
structure Binary64 where
  bits : UInt64
  deriving DecidableEq, Inhabited

/-- A 32-bit binary floating point number. -/
structure Binary32 where
  bits : UInt32
  deriving DecidableEq, Inhabited

namespace Binary64

def reading (x : Binary64) : Reading := read .binary64 x.bits.toNat

def isFinite (x : Binary64) : Bool :=
  match x.reading with
  | .finite .. => true
  | _ => false

def ofMagnitude (negative : Bool) (magnitude : Nat) : Binary64 :=
  ⟨(withSign .binary64 negative magnitude).toUInt64⟩

/-- The number nearest to `± num / den`. -/
def ofRatio (negative : Bool) (num den : Nat) : Binary64 :=
  ofMagnitude negative (nearest .binary64 num den)

def ofNat (n : Nat) : Binary64 := ofRatio false n 1

def ofInt (i : Int) : Binary64 := ofRatio (i < 0) i.natAbs 1

def zero : Binary64 := ⟨0⟩

def nan : Binary64 := ⟨0x7FF8000000000000⟩

def isZero (x : Binary64) : Bool :=
  match x.reading with
  | .finite _ m _ => m == 0
  | _ => false

def negate (x : Binary64) : Binary64 := ⟨x.bits ^^^ 0x8000000000000000⟩

/-- The magnitude of a finite number as a fraction. -/
def ratio? (x : Binary64) : Option (Bool × Nat × Nat) :=
  match x.reading with
  | .finite negative m q => some (negative, scaleByTwo m 1 q)
  | _ => none

/-- The product of two finite numbers. -/
def mul (x y : Binary64) : Binary64 :=
  match x.ratio?, y.ratio? with
  | some (s, a, b), some (t, c, d) => ofRatio (s != t) (a * c) (b * d)
  | _, _ => nan

/-- The quotient of two finite numbers, the second of which is not zero. -/
def div (x y : Binary64) : Binary64 :=
  match x.ratio?, y.ratio? with
  | some (s, a, b), some (t, c, d) => if c = 0 then nan else ofRatio (s != t) (a * d) (b * c)
  | _, _ => nan

/-- `n ≤ x`, false for what is not a number. -/
def atLeast (x : Binary64) (n : Nat) : Bool :=
  match x.reading with
  | .finite negative m q =>
    let r := scaleByTwo m 1 q
    if negative then m == 0 && n == 0 else n * r.2 ≤ r.1
  | .infinite negative => !negative
  | .notANumber => false

end Binary64

namespace Binary32

def reading (x : Binary32) : Reading := read .binary32 x.bits.toNat

def isFinite (x : Binary32) : Bool :=
  match x.reading with
  | .finite .. => true
  | _ => false

def ofMagnitude (negative : Bool) (magnitude : Nat) : Binary32 :=
  ⟨(withSign .binary32 negative magnitude).toUInt32⟩

def ofRatio (negative : Bool) (num den : Nat) : Binary32 :=
  ofMagnitude negative (nearest .binary32 num den)

def ofInt (i : Int) : Binary32 := ofRatio (i < 0) i.natAbs 1

def nan : Binary32 := ⟨0x7FC00000⟩

/-- The 32-bit number nearest to a 64-bit one. -/
def ofBinary64 (x : Binary64) : Binary32 :=
  match x.reading with
  | .finite negative m q => let r := scaleByTwo m 1 q; ofRatio negative r.1 r.2
  | .infinite negative => ofMagnitude negative Format.binary32.infinity
  | .notANumber => nan

/-- The same number in 64 bits. -/
def widen (x : Binary32) : Binary64 :=
  match x.reading with
  | .finite negative m q => let r := scaleByTwo m 1 q; .ofRatio negative r.1 r.2
  | .infinite negative => .ofMagnitude negative Format.binary64.infinity
  | .notANumber => .nan

end Binary32

end CodeHealth
