/-! Instants: a day of the calendar with a time of day in UTC, down to nanoseconds. A minute may
have a sixty-first second. -/
namespace CodeHealth

/-- The fields of a date with a time of day. -/
structure Clock where
  year : Int
  month : Nat
  day : Nat
  hour : Nat
  minute : Nat
  second : Nat
  nano : Nat
  deriving DecidableEq

namespace Clock

def isLeap (year : Int) : Bool := year % 4 == 0 && (year % 100 != 0 || year % 400 == 0)

def daysIn (year : Int) (month : Nat) : Nat :=
  if month = 2 then if isLeap year then 29 else 28
  else if month = 4 ∨ month = 6 ∨ month = 9 ∨ month = 11 then 30 else 31

def leastYear : Int := -262143

def greatestYear : Int := 262142

def isValid (c : Clock) : Bool :=
  leastYear ≤ c.year && c.year ≤ greatestYear && 1 ≤ c.month && c.month ≤ 12 &&
    1 ≤ c.day && c.day ≤ daysIn c.year c.month && c.hour < 24 && c.minute < 60 &&
    c.second ≤ 60 && c.nano < 1000000000

def nextDay (c : Clock) : Clock :=
  if c.day < daysIn c.year c.month then { c with day := c.day + 1 }
  else if c.month < 12 then { c with month := c.month + 1, day := 1 }
  else { c with year := c.year + 1, month := 1, day := 1 }

def previousDay (c : Clock) : Clock :=
  if 1 < c.day then { c with day := c.day - 1 }
  else if 1 < c.month then { c with month := c.month - 1, day := daysIn c.year (c.month - 1) }
  else { c with year := c.year - 1, month := 12, day := 31 }

/-- The same moment on a clock that is `minutes` behind; less than a day. -/
def back (c : Clock) (minutes : Int) : Clock :=
  let t : Int := c.hour * 60 + c.minute - minutes
  let c := if t < 0 then c.previousDay else if 1440 ≤ t then c.nextDay else c
  let t := (t % 1440).toNat
  { c with hour := t / 60, minute := t % 60 }

end Clock

/-- A moment, told by a clock in UTC. -/
structure Instant where
  clock : Clock
  valid : clock.isValid = true
  deriving DecidableEq

def Instant.ofClock? (c : Clock) : Option Instant :=
  if h : c.isValid = true then some ⟨c, h⟩ else none

end CodeHealth
