import CallGateway.Basic

/-! Points in time of the proleptic Gregorian calendar, in universal time. A leap second shows as
second 60. -/

namespace CallGateway

def isLeapYear (year : Int) : Bool := year % 4 == 0 && (year % 100 != 0 || year % 400 == 0)

def daysInMonth (year : Int) (month : Nat) : Nat :=
  if month = 2 then (if isLeapYear year then 29 else 28)
  else if month = 4 ∨ month = 6 ∨ month = 9 ∨ month = 11 then 30
  else 31

structure Date where
  year : Int
  month : Nat
  day : Nat
  deriving DecidableEq

namespace Date

def firstYear : Int := -262143

def lastYear : Int := 262142

def Valid (d : Date) : Prop :=
  (firstYear ≤ d.year ∧ d.year ≤ lastYear) ∧ (1 ≤ d.month ∧ d.month ≤ 12) ∧
    1 ≤ d.day ∧ d.day ≤ daysInMonth d.year d.month

instance (d : Date) : Decidable d.Valid := inferInstanceAs (Decidable (_ ∧ _))

def next (d : Date) : Date :=
  if d.day < daysInMonth d.year d.month then ⟨d.year, d.month, d.day + 1⟩
  else if d.month < 12 then ⟨d.year, d.month + 1, 1⟩
  else ⟨d.year + 1, 1, 1⟩

def previous (d : Date) : Date :=
  if 1 < d.day then ⟨d.year, d.month, d.day - 1⟩
  else if 1 < d.month then ⟨d.year, d.month - 1, daysInMonth d.year (d.month - 1)⟩
  else ⟨d.year - 1, 12, 31⟩

/-- Days since the first of January 1970. -/
def epochDay (d : Date) : Int :=
  let y := d.year - 1
  let leapDays : Int := Int.fdiv y 4 - Int.fdiv y 100 + Int.fdiv y 400
  let monthDays := ((List.range (d.month - 1)).map fun m => daysInMonth d.year (m + 1)).sum
  y * 365 + leapDays + monthDays + (d.day - 1 : Nat) - 719162

end Date

structure Instant where
  date : Date
  hour : Nat
  minute : Nat
  second : Nat
  nano : Nat
  valid : date.Valid ∧ hour < 24 ∧ minute < 60 ∧ second ≤ 60 ∧ nano < 10 ^ 9
  deriving DecidableEq

namespace Instant

/-- The start of the year 1970. -/
def epoch : Instant := ⟨⟨1970, 1, 1⟩, 0, 0, 0, 0, by decide⟩

instance : Inhabited Instant := ⟨epoch⟩

/-- Milliseconds since the epoch. -/
def epochMillis (t : Instant) : Int :=
  (((t.date.epochDay * 24 + t.hour) * 60 + t.minute) * 60 + t.second) * 1000 + t.nano / 10 ^ 6

end Instant

end CallGateway
