import CodeHealth.Calendar.Instant
import CodeHealth.Number.Binary
import CodeHealth.Toml.Text
import CodeHealth.Toml.Value

/-! Numbers and moments in TOML. -/
namespace CodeHealth.Toml

open Number (hexValue isDecimal)

/-- Digits of one kind, between which single underscores may stand. -/
def digitRun (accepts : Char → Bool) : List Char → Option (List Char × List Char)
  | [] => none
  | [d] => if accepts d then some ([d], []) else none
  | d :: '_' :: r =>
    if accepts d then
      match digitRun accepts r with
      | some p => some (d :: p.1, p.2)
      | none => none
    else none
  | d :: r =>
    if accepts d then
      match digitRun accepts r with
      | some p => some (d :: p.1, p.2)
      | none => some ([d], r)
    else none

def valueIn (base : Nat) (ds : List Char) : Nat :=
  ds.foldl (fun n d => base * n + (hexValue d).getD 0) 0

/-- A decimal whole number without its sign; zero stands alone. -/
def decimal : List Char → Option (List Char × List Char)
  | '0' :: r => some (['0'], r)
  | cs => digitRun isDecimal cs

def sign : List Char → Bool × List Char
  | '-' :: r => (true, r)
  | '+' :: r => (false, r)
  | cs => (false, cs)

/-- Whole numbers have to fit 64 bits with a sign. -/
def inRange (i : Int) : Option Toml :=
  if (Int64.ofInt i).toInt = i then some (.whole i) else none

def inBase (base : Nat) (accepts : Char → Bool) (cs : List Char) : Option (Toml × List Char) := do
  let (ds, r) ← digitRun accepts cs
  some (← inRange (valueIn base ds), r)

def wholeNumber (cs : List Char) : Option (Toml × List Char) :=
  match cs with
  | '0' :: 'x' :: r => inBase 16 (fun c => (hexValue c).isSome) r
  | '0' :: 'o' :: r => inBase 8 (fun c => '0' ≤ c && c ≤ '7') r
  | '0' :: 'b' :: r => inBase 2 (fun c => c == '0' || c == '1') r
  | cs => do
    let (negative, r) := sign cs
    let (ds, r) ← decimal r
    let n := valueIn 10 ds
    some (← inRange (if negative then -n else n), r)

def fractionPart (cs : List Char) : Option (List Char × List Char) :=
  match cs with
  | '.' :: r => digitRun isDecimal r
  | _ => none

def exponentPart (cs : List Char) : Option (Int × List Char) :=
  match cs with
  | c :: r =>
    if c = 'e' ∨ c = 'E' then
      let (negative, r) := sign r
      (digitRun isDecimal r).map fun p =>
        (if negative then -valueIn 10 p.1 else valueIn 10 p.1, p.2)
    else none
  | [] => none

/-- Whether `d · 10^e` is too large for a binary number of 64 bits. -/
def overflows (ds : List Char) (e : Int) : Bool :=
  let d := valueIn 10 ds
  let size : Int := (Nat.toDigits 10 d).length + e
  if d = 0 ∨ size < 300 then false
  else if 320 < size then true
  else
    let x := Number.scaleByTwo d 1 0
    let num := if 0 ≤ e then x.1 * Nat.pow 10 e.toNat else x.1
    let den := if 0 ≤ e then 1 else Nat.pow 10 (-e).toNat
    Number.nearest .binary64 num den == Number.Format.binary64.infinity

/-- A number with a fraction or an exponent. One that is too large is refused, but only where it is
positive. -/
def fractional (cs : List Char) : Option (Toml × List Char) := do
  let (negative, r) := sign cs
  let (ds, r) ← decimal r
  let (digits, e, r) ← match fractionPart r with
    | some (fs, r) =>
      match exponentPart r with
      | some (e, r) => some (ds ++ fs, e - fs.length, r)
      | none => some (ds ++ fs, -(fs.length : Int), r)
    | none => (exponentPart r).map fun p => (ds, p.1, p.2)
  if !negative && overflows digits e then none else some (.real, r)

/-- The numbers that are written as words. -/
def namedReal (cs : List Char) : Option (Toml × List Char) :=
  match (sign cs).2 with
  | 'i' :: 'n' :: 'f' :: r => some (.real, r)
  | 'n' :: 'a' :: 'n' :: r => some (.real, r)
  | _ => none

/-! ### Moments -/

def fixedNumber (n : Nat) (cs : List Char) : Option (Nat × List Char) :=
  let ds := cs.take n
  if ds.length = n && ds.all isDecimal then some (valueIn 10 ds, cs.drop n) else none

def mark (c : Char) : List Char → Option (List Char)
  | d :: r => if c = d then some r else none
  | [] => none

def date (cs : List Char) : Option (List Char) := do
  let (year, r) ← fixedNumber 4 cs
  let (month, r) ← fixedNumber 2 (← mark '-' r)
  let (day, r) ← fixedNumber 2 (← mark '-' r)
  if 1 ≤ month ∧ month ≤ 12 ∧ 1 ≤ day ∧ day ≤ Clock.daysIn year month then some r else none

def time (cs : List Char) : Option (List Char) := do
  let (hour, r) ← fixedNumber 2 cs
  let (minute, r) ← fixedNumber 2 (← mark ':' r)
  let (second, r) ← fixedNumber 2 (← mark ':' r)
  if hour < 24 ∧ minute < 60 ∧ second ≤ 60 then
    match r with
    | '.' :: d :: s => if isDecimal d then some (s.dropWhile isDecimal) else some r
    | r => some r
  else none

def offset (cs : List Char) : Option (List Char) :=
  match cs with
  | [] => none
  | c :: r =>
    if c = 'Z' ∨ c = 'z' then some r
    else if c = '+' ∨ c = '-' then do
      let (hour, r) ← fixedNumber 2 r
      let (minute, r) ← fixedNumber 2 (← mark ':' r)
      if hour < 24 ∧ minute < 60 then some r else none
    else none

/-- A date, a time, or both, the latter perhaps with an offset. -/
def dateOrTime (cs : List Char) : Option (Toml × List Char) :=
  match date cs with
  | some r =>
    let full := match r with
      | c :: s => if c = 'T' ∨ c = 't' ∨ c = ' ' then time s else none
      | [] => none
    match full with
    | some s => some (.moment, (offset s).getD s)
    | none => some (.moment, r)
  | none => (time cs).map (.moment, ·)

end CodeHealth.Toml
