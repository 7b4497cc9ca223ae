import TestRun.Number.Binary64

/-! Points in time without a zone, in the proleptic Gregorian calendar of the years one to 9999. -/

set_option autoImplicit false

namespace TestRun

structure Timestamp where
  year : Nat
  month : Nat
  day : Nat
  hour : Nat
  minute : Nat
  second : Nat
  microsecond : Nat
  deriving DecidableEq, Repr, Inhabited

namespace Timestamp

def isLeap (year : Nat) : Bool := year % 4 = 0 && (year % 100 != 0 || year % 400 = 0)

def daysInMonth (year month : Nat) : Nat :=
  if month = 2 then (if isLeap year then 29 else 28)
  else if month = 4 ∨ month = 6 ∨ month = 9 ∨ month = 11 then 30
  else 31

def isValid (t : Timestamp) : Bool :=
  1 ≤ t.year && t.year ≤ 9999 && 1 ≤ t.month && t.month ≤ 12 && 1 ≤ t.day &&
    t.day ≤ daysInMonth t.year t.month && t.hour < 24 && t.minute < 60 && t.second < 60 &&
    t.microsecond < 1000000

def takeDigits? : (count : Nat) → List Char → Option (Nat × List Char)
  | 0, text => some (0, text)
  | count + 1, c :: text => do
      let (low, rest) ← takeDigits? count text
      if c.isDigit then some ((c.toNat - 48) * Nat.pow 10 count + low, rest) else none
  | _ + 1, [] => none

-- The fields of a date from the front: four digits, then pairs of digits behind their marks, as
-- many as are there; a `Z` ends it.
def fields? (marks : List Char) (text : List Char) : Option (List Nat) :=
  match marks, text with
  | _, 'Z' :: _ => some []
  | mark :: marks, c :: text =>
      if c = mark then do
        let (field, rest) ← takeDigits? 2 text
        let others ← fields? marks rest
        some (field :: others)
      else none
  | _, _ => none

def writtenFields? (text : List Char) : Option (List Nat) := do
  let (year, rest) ← takeDigits? 4 text
  let others ← fields? ['-', '-', 'T', ':', ':'] rest
  some (year :: others)

inductive DateFault where
  | unreadable
  | incomplete
  | outOfRange
  deriving DecidableEq, Repr

def ofFields (fields : List Nat) : Except DateFault Timestamp :=
  match fields with
  | year :: month :: day :: time =>
      let t : Timestamp := ⟨year, month, day, time.getD 0 0, time.getD 1 0, time.getD 2 0, 0⟩
      if t.isValid then .ok t else .error .outOfRange
  | _ => .error .incomplete

def read (text : List Char) : Except DateFault Timestamp :=
  match writtenFields? text with
  | none => .error .unreadable
  | some fields => ofFields fields

def civil (days : Nat) : Nat × Nat × Nat :=
  let (cycles, inCycle) := (days / 146097, days % 146097)
  let century := min (inCycle / 36524) 3
  let inCentury := inCycle - century * 36524
  let (fours, inFour) := (inCentury / 1461, inCentury % 1461)
  let single := min (inFour / 365) 3
  let year := cycles * 400 + century * 100 + fours * 4 + single + 1
  let rec monthOf (tries month day : Nat) : Nat × Nat :=
    match tries with
    | 0 => (month, day)
    | tries + 1 =>
        let length := daysInMonth year month
        if day < length then (month, day) else monthOf tries (month + 1) (day - length)
  let (month, day) := monthOf 11 1 (inFour - single * 365)
  (year, month, day + 1)

def epochDay : Int := 730485

def ofMicroseconds? (count : Int) : Option Timestamp :=
  let days := epochDay + Int.fdiv count 86400000000
  let inDay := (Int.fmod count 86400000000).toNat
  if 0 ≤ days ∧ days < 3652059 then
    let (year, month, day) := civil days.toNat
    some ⟨year, month, day, inDay / 3600000000, inDay / 60000000 % 60, inDay / 1000000 % 60,
      inDay % 1000000⟩
  else none

def nearestInt (numerator : Int) (denominator : Nat) : Int :=
  let floor := Int.fdiv numerator denominator
  let twice := 2 * (Int.fmod numerator denominator)
  if twice > denominator ∨ (twice = denominator ∧ floor % 2 = 1) then floor + 1 else floor

-- The whole part of a magnitude counts exactly; the microseconds of the other part are first
-- rounded to double precision and then to the nearest one.
def ofSeconds? (seconds : Binary64) : Option Timestamp :=
  if !seconds.isFinite then none
  else
    let (numerator, denominator) := seconds.ratio
    let whole := numerator.natAbs / denominator
    let micro := Binary64.ofRatio false (numerator.natAbs % denominator * 1000000) denominator
    let (part, unit) := micro.ratio
    let magnitude := (whole : Int) * 1000000 * unit + part
    ofMicroseconds? (nearestInt (if seconds.isNegative then -magnitude else magnitude) unit)

def padded (width n : Nat) : String :=
  let digits := Nat.toDigits 10 n
  String.ofList (List.replicate (width - digits.length) '0' ++ digits)

def micros (t : Timestamp) : String :=
  if t.microsecond = 0 then "" else "." ++ padded 6 t.microsecond

def textWith (between : String) (t : Timestamp) : String :=
  padded 4 t.year ++ "-" ++ padded 2 t.month ++ "-" ++ padded 2 t.day ++ between ++
    padded 2 t.hour ++ ":" ++ padded 2 t.minute ++ ":" ++ padded 2 t.second ++ t.micros

def isoText (t : Timestamp) : String := textWith "T" t

def listed (t : Timestamp) : String :=
  let shown := [t.year, t.month, t.day, t.hour, t.minute] ++
    (if t.microsecond != 0 then [t.second, t.microsecond]
     else if t.second != 0 then [t.second] else [])
  "datetime.datetime(" ++ ", ".intercalate (shown.map fun n => String.ofList (Nat.toDigits 10 n)) ++ ")"

end Timestamp
end TestRun
