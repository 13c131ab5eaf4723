import CallGateway.Instant
import CallGateway.Json.Decode
import CallGateway.Text.CodePoints
import CallGateway.Text.Reader

/-! Date-times as text: `2020-01-02T03:04:05.678Z`. Reading is lenient about white space, single
digits, the letter between date and time and the offset; writing is not. -/

namespace CallGateway.Instant

open Text (trimStart decimalValue? takeDigits ofDigits readMark)

/-! ## Reading -/

/-- A number of at least one and up to `most` digits. -/
def readNat (most : Nat) (cs : List Char) : Option (Nat × List Char) :=
  match takeDigits decimalValue? most cs with
  | ([], _) => none
  | (ds, rest) => some (ofDigits 10 ds, rest)

/-- White space and a number of up to two digits. -/
def readPart (cs : List Char) : Option (Nat × List Char) := readNat 2 (trimStart cs)

/-- Four digits at most, or a sign and as many digits as there are. -/
def readYear (cs : List Char) : Option (Int × List Char) :=
  match trimStart cs with
  | [] => none
  | c :: rest =>
    if c = '-' then (readNat rest.length rest).map fun (n, r) => (-n, r)
    else if c = '+' then (readNat rest.length rest).map fun (n, r) => (n, r)
    else (readNat 4 (c :: rest)).map fun (n, r) => (n, r)

/-- The digits of a fraction in nanoseconds; those beyond the ninth do not count. -/
def readFraction (cs : List Char) : Option (Nat × List Char) :=
  match cs with
  | [] => some (0, [])
  | c :: rest =>
    if c = '.' then
      match takeDigits decimalValue? rest.length rest with
      | ([], _) => none
      | (ds, r) => some (ofDigits 10 (ds.take 9) * 10 ^ (9 - ds.length), r)
    else some (0, c :: rest)

def readDate (cs : List Char) : Option (Date × List Char) := do
  let (year, cs) ← readYear cs
  let (month, cs) ← readPart (← readMark '-' (trimStart cs))
  let (day, cs) ← readPart (← readMark '-' (trimStart cs))
  return (⟨year, month, day⟩, cs)

/-- The letter T in either case, or a space. -/
def readSeparator (cs : List Char) : Option (List Char) :=
  match cs with
  | [] => none
  | c :: rest => if c = 't' ∨ c = 'T' ∨ c = ' ' then some rest else none

/-- Hour, minute, second and nanoseconds. -/
def readTime (cs : List Char) : Option ((Nat × Nat × Nat × Nat) × List Char) := do
  let (hour, cs) ← readPart cs
  let (minute, cs) ← readPart (← readMark ':' (trimStart cs))
  let (second, cs) ← readPart (← readMark ':' (trimStart cs))
  let (nano, cs) ← readFraction cs
  return ((hour, minute, second, nano), cs)

/-- Two digits, no more and no fewer. -/
def readTwo (cs : List Char) : Option (Nat × List Char) :=
  match takeDigits decimalValue? 2 cs with
  | ([a, b], rest) => some (a * 10 + b, rest)
  | _ => none

/-- The offset from universal time in minutes: `Z`, `UTC` or hours and minutes behind a sign. -/
def readOffset (cs : List Char) : Option (Int × List Char) :=
  if (cs.take 3).map Char.toUpper = ['U', 'T', 'C'] then some (0, cs.drop 3)
  else
    match cs with
    | [] => none
    | c :: rest =>
      if c = 'Z' ∨ c = 'z' then some (0, rest)
      else if c = '+' ∨ c = '-' ∨ c = '−' then do
        let (hours, rest) ← readTwo rest
        let (minutes, rest) ← readTwo (rest.dropWhile fun c => c == ':' || Text.isBlankChar c)
        if 24 ≤ hours ∨ 60 ≤ minutes then none
        else
          let offset : Int := hours * 60 + minutes
          return (if c = '+' then offset else -offset, rest)
      else none

/-- The instant at which clocks that are `offset` minutes ahead show this date and time. -/
def ofLocal? (date : Date) (hour minute second nano : Nat) (offset : Int) : Option Instant :=
  if date.Valid ∧ hour < 24 ∧ minute < 60 then
    let m : Int := hour * 60 + minute - offset
    let date := if m < 0 then date.previous else if 1440 ≤ m then date.next else date
    let m := (m % 1440).toNat
    if h : date.Valid ∧ m / 60 < 24 ∧ m % 60 < 60 ∧ second ≤ 60 ∧ nano < 10 ^ 9 then
      some ⟨date, m / 60, m % 60, second, nano, h⟩
    else none
  else none

def parse? (s : String) : Option Instant := do
  let (date, cs) ← readDate s.toList
  let (time, cs) ← readTime (← readSeparator cs)
  let (offset, cs) ← readOffset (trimStart cs)
  if cs.all Text.isBlankChar then
    ofLocal? date time.1 time.2.1 time.2.2.1 time.2.2.2 offset
  else none

/-! ## Writing -/

/-- At least `width` digits. -/
def padded (width n : Nat) : List Char :=
  let ds := Nat.toDigits 10 n
  List.replicate (width - ds.length) '0' ++ ds

/-- Years of more than four digits or below zero carry a sign. -/
def yearText (year : Int) : List Char :=
  if 0 ≤ year ∧ year ≤ 9999 then padded 4 year.toNat
  else (if year < 0 then '-' else '+') :: padded 4 year.natAbs

/-- The fraction in three, six or nine digits, the fewest that are exact; none for zero. -/
def fractionText (nano : Nat) : List Char :=
  if nano = 0 then []
  else if nano % 10 ^ 6 = 0 then '.' :: padded 3 (nano / 10 ^ 6)
  else if nano % 10 ^ 3 = 0 then '.' :: padded 6 (nano / 10 ^ 3)
  else '.' :: padded 9 nano

def display (t : Instant) : String :=
  String.ofList (yearText t.date.year ++ '-' :: padded 2 t.date.month ++ '-' :: padded 2 t.date.day
    ++ 'T' :: padded 2 t.hour ++ ':' :: padded 2 t.minute ++ ':' :: padded 2 t.second
    ++ fractionText t.nano ++ ['Z'])

def toJson (t : Instant) : Json.Value := .string t.display

def decoder : Json.Decoder Instant :=
  .parsed "an RFC 3339 formatted date and time string" "<datetime>" parse?

end CallGateway.Instant
