import CodeHealth.Calendar.Instant
import CodeHealth.Number.Digits
import CodeHealth.Text.Blank

/-! Instants as text. They are written in UTC, with as many groups of three fraction digits as
needed. Reading is lenient: blanks around the numbers, fewer digits, any number of fraction digits,
`T`, `t` or a space before the time, and an offset as `Z`, `+hh:mm`, `+hhmm`, `+hh` or `UTC`. -/
namespace CodeHealth.Instant

open Text
open Number (isDecimal ofDecimals)

/-- `n` with at least `width` digits. -/
def padded (width n : Nat) : List Char :=
  let ds := Nat.toDigits 10 n
  List.replicate (width - ds.length) '0' ++ ds

def writeYear (y : Int) : List Char :=
  if 0 ≤ y ∧ y ≤ 9999 then padded 4 y.toNat
  else (if y < 0 then '-' else '+') :: padded 4 y.natAbs

def writeFraction (nano : Nat) : List Char :=
  if nano = 0 then []
  else if nano % 1000000 = 0 then '.' :: padded 3 (nano / 1000000)
  else if nano % 1000 = 0 then '.' :: padded 6 (nano / 1000)
  else '.' :: padded 9 nano

def dateChars (c : Clock) : List Char :=
  writeYear c.year ++ '-' :: padded 2 c.month ++ '-' :: padded 2 c.day

def write (t : Instant) : String :=
  let c := t.clock
  String.ofList (dateChars c ++ 'T' :: padded 2 c.hour ++ ':' :: padded 2 c.minute ++
    ':' :: padded 2 c.second ++ writeFraction c.nano ++ ['Z'])

/-- The date alone. -/
def writeDate (t : Instant) : String := String.ofList (dateChars t.clock)

/-- The date and the time of day to the minute. -/
def writeMinute (t : Instant) : String :=
  String.ofList (dateChars t.clock ++ ' ' :: padded 2 t.clock.hour ++ ':' ::
    padded 2 t.clock.minute)

/-- Up to `width` digits at the start, at least one. -/
def number (width : Nat) (cs : List Char) : Option (Nat × List Char) :=
  let ds := (cs.take width).takeWhile isDecimal
  if ds.isEmpty then none else some (ofDecimals ds, cs.drop ds.length)

def field (width : Nat) (cs : List Char) : Option (Nat × List Char) := number width (trimStart cs)

def literal (c : Char) (cs : List Char) : Option (List Char) :=
  match trimStart cs with
  | d :: r => if d = c then some r else none
  | [] => none

/-- A year: four digits, or any number of them after a sign. -/
def year (cs : List Char) : Option (Int × List Char) :=
  match trimStart cs with
  | '-' :: r => (number r.length r).map fun p => (-p.1, p.2)
  | '+' :: r => (number r.length r).map fun p => (p.1, p.2)
  | r => (number 4 r).map fun p => (p.1, p.2)

/-- Nanoseconds from the digits after a point, of which nine count. -/
def fraction (cs : List Char) : Option (Nat × List Char) :=
  match cs with
  | '.' :: r =>
    let ds := r.takeWhile isDecimal
    if ds.isEmpty then none
    else
      let kept := ds.take 9
      some (ofDecimals kept * Nat.pow 10 (9 - kept.length), r.drop ds.length)
  | _ => some (0, cs)

def isMinus (c : Char) : Bool := c == '-' || c.toNat == 0x2212

/-- An offset in minutes. -/
def offset (cs : List Char) : Option (Int × List Char) :=
  match cs with
  | [] => none
  | c :: r =>
    if c = 'Z' ∨ c = 'z' then some (0, r)
    else if (cs.take 3).map Char.toUpper = ['U', 'T', 'C'] then some (0, cs.drop 3)
    else if c = '+' ∨ isMinus c then
      match r with
      | a :: b :: r =>
        if isDecimal a && isDecimal b then
          let hours := ofDecimals [a, b]
          let sign : Int := if c = '+' then 1 else -1
          match r.dropWhile fun c => c == ':' || isBlank c with
          | [] => some (sign * (hours * 60 : Nat), [])
          | m :: n :: r =>
            if '0' ≤ m && m ≤ '5' && isDecimal n then
              some (sign * (hours * 60 + ofDecimals [m, n] : Nat), r)
            else none
          | [_] => none
        else none
      | _ => none
    else none

def read (s : String) : Option Instant := do
  let (year, r) ← year s.toList
  let (month, r) ← field 2 (← literal '-' r)
  let (day, r) ← field 2 (← literal '-' r)
  let r ← match r with
    | c :: r => if c = 'T' ∨ c = 't' ∨ c = ' ' then some r else none
    | [] => none
  let (hour, r) ← field 2 r
  let (minute, r) ← field 2 (← literal ':' r)
  let (second, r) ← field 2 (← literal ':' r)
  let (nano, r) ← fraction r
  let (minutes, r) ← offset (trimStart r)
  if !r.all isBlank || 1440 ≤ minutes.natAbs then none
  else
    let there ← ofClock? ⟨year, month, day, hour, minute, second, nano⟩
    ofClock? (there.clock.back minutes)

end CodeHealth.Instant
