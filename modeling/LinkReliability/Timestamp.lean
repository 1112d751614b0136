import LinkReliability.Decimal.Text
import LinkReliability.Text.Input

/-!
# Timestamps

An instant of the civil calendar in UTC, to the nanosecond. It is written as
`2024-01-01T00:00:00.500Z`, with no fraction, three, six or nine places, and read in the same form
with any offset from UTC.
-/

namespace LinkReliability

/-- Seconds since 1970 and nanoseconds within the second. A leap second is written as the second
before it with ten to the ninth more nanoseconds. -/
structure Timestamp where
  seconds : Int
  nanos : Nat
deriving DecidableEq, Repr

namespace Timestamp

def ofEpochNanos (n : Int) : Timestamp := ⟨n / 1000000000, (n % 1000000000).toNat⟩

def epochNanos (t : Timestamp) : Int := t.seconds * 1000000000 + t.nanos

instance : LE Timestamp := ⟨fun a b => a.epochNanos ≤ b.epochNanos⟩

instance (a b : Timestamp) : Decidable (a ≤ b) :=
  inferInstanceAs (Decidable (a.epochNanos ≤ b.epochNanos))

/-! ## The calendar -/

structure Date where
  year : Int
  month : Nat
  day : Nat
deriving DecidableEq, Repr

def isLeapYear (y : Int) : Bool := y % 4 = 0 ∧ (y % 100 ≠ 0 ∨ y % 400 = 0)

def daysInMonth (y : Int) (m : Nat) : Nat :=
  if m = 2 then (if isLeapYear y then 29 else 28)
  else if m = 4 ∨ m = 6 ∨ m = 9 ∨ m = 11 then 30
  else 31

/-- Days from 1970-01-01; years are counted from March, so that the leap day ends one. -/
def dayNumber (d : Date) : Int :=
  let y := if d.month ≤ 2 then d.year - 1 else d.year
  let era := y / 400
  let ofEra := y % 400
  let shifted := if 2 < d.month then d.month - 3 else d.month + 9
  let dayOfYear := (153 * shifted + 2) / 5 + d.day - 1
  era * 146097 + ofEra * 365 + ofEra / 4 - ofEra / 100 + dayOfYear - 719468

def dateOfDay (n : Int) : Date :=
  let z := n + 719468
  let era := z / 146097
  let dayOfEra := (z % 146097).toNat
  let yearOfEra := (dayOfEra - dayOfEra / 1460 + dayOfEra / 36524 - dayOfEra / 146096) / 365
  let dayOfYear := dayOfEra - (365 * yearOfEra + yearOfEra / 4 - yearOfEra / 100)
  let shifted := (5 * dayOfYear + 2) / 153
  let month := if shifted < 10 then shifted + 3 else shifted - 9
  let year := era * 400 + yearOfEra
  ⟨if month ≤ 2 then year + 1 else year, month, dayOfYear - (153 * shifted + 2) / 5 + 1⟩

/-! ## Writing -/

/-- Years from 0 to 9999 have four digits; others carry a sign as well. -/
def yearText (y : Int) : String :=
  if 0 ≤ y ∧ y ≤ 9999 then Decimal.padded 4 y.toNat
  else (if y < 0 then "-" else "+") ++ Decimal.padded 4 y.natAbs

def fractionText (n : Nat) : String :=
  if n = 0 then ""
  else if n % 1000000 = 0 then "." ++ Decimal.padded 3 (n / 1000000)
  else if n % 1000 = 0 then "." ++ Decimal.padded 6 (n / 1000)
  else "." ++ Decimal.padded 9 n

def text (t : Timestamp) : String :=
  let date := dateOfDay (t.seconds / 86400)
  let ofDay := (t.seconds % 86400).toNat
  let leap := t.nanos / 1000000000
  yearText date.year ++ "-" ++ Decimal.padded 2 date.month ++ "-" ++ Decimal.padded 2 date.day ++
    "T" ++ Decimal.padded 2 (ofDay / 3600) ++ ":" ++ Decimal.padded 2 (ofDay / 60 % 60) ++ ":" ++
    Decimal.padded 2 (ofDay % 60 + leap) ++ fractionText (t.nanos % 1000000000) ++ "Z"

/-! ## Reading -/

def digitValue (c : Char) : Nat := c.toNat - '0'.toNat

def valueOfDigits (ds : List Char) : Nat := ds.foldl (fun n c => 10 * n + digitValue c) 0

/-- Between one and `most` digits, after any white space. -/
def number? (most : Nat) (cs : List Char) : Option (Nat × List Char) :=
  let cs := Text.trimStart cs
  let ds := (cs.takeWhile Char.isDigit).take most
  if ds.isEmpty then none else some (valueOfDigits ds, cs.drop ds.length)

/-- A year has at most four digits, unless a sign stands in front. -/
def year? (cs : List Char) : Option (Int × List Char) :=
  let signed (rest : List Char) : Option (Nat × List Char) :=
    match rest with
    | c :: _ => if c.isDigit then number? rest.length rest else none
    | [] => none
  match Text.trimStart cs with
  | '-' :: rest => (signed rest).map (fun p => (-(Int.ofNat p.1), p.2))
  | '+' :: rest => (signed rest).map (fun p => (Int.ofNat p.1, p.2))
  | rest => (number? 4 rest).map (fun p => (Int.ofNat p.1, p.2))

def mark? (c : Char) (cs : List Char) : Option (List Char) :=
  match Text.trimStart cs with
  | d :: rest => if d = c then some rest else none
  | [] => none

/-- A fraction of a second; places after the ninth are passed over. -/
def fraction? : List Char → Option (Nat × List Char)
  | '.' :: rest =>
    let all := rest.takeWhile Char.isDigit
    let ds := all.take 9
    if ds.isEmpty then none
    else some (valueOfDigits ds * Nat.pow 10 (9 - ds.length), rest.drop all.length)
  | rest => some (0, rest)

/-- The distance of local time from UTC in seconds: `Z`, `UTC`, or a sign with two digits of hours
and two of minutes. -/
def offset? (cs : List Char) : Option (Int × List Char) :=
  let isMark (c : Char) : Bool := c = ':' ∨ Text.isBlank c
  let hoursAndMinutes (rest : List Char) : Option (Int × List Char) :=
    match rest with
    | h₁ :: h₂ :: rest =>
      match rest.dropWhile isMark with
      | m₁ :: m₂ :: rest =>
        if h₁.isDigit ∧ h₂.isDigit ∧ m₁.isDigit ∧ m₂.isDigit ∧ digitValue m₁ < 6 then
          let minutes := valueOfDigits [h₁, h₂] * 60 + valueOfDigits [m₁, m₂]
          if minutes < 1440 then some (Int.ofNat (minutes * 60), rest) else none
        else none
      | _ => none
    | _ => none
  match Text.trimStart cs with
  | 'Z' :: rest => some (0, rest)
  | 'z' :: rest => some (0, rest)
  | '+' :: rest => hoursAndMinutes rest
  | '-' :: rest => (hoursAndMinutes rest).map (fun p => (-p.1, p.2))
  | '−' :: rest => (hoursAndMinutes rest).map (fun p => (-p.1, p.2))
  | u :: t :: c :: rest =>
    if u.toLower = 'u' ∧ t.toLower = 't' ∧ c.toLower = 'c' then some (0, rest) else none
  | _ => none

/-- The first day of the calendar; every instant lies between it and `lastDay`. -/
def firstDay : Date := ⟨-262143, 1, 1⟩

def lastDay : Date := ⟨262142, 12, 31⟩

/-- White space may stand between the parts. The second 60 stands for a leap second. Neither the
local date nor the instant may leave the calendar. -/
def ofText? (s : String) : Option Timestamp := do
  let (year, cs) ← year? s.toList
  let cs ← mark? '-' cs
  let (month, cs) ← number? 2 cs
  let cs ← mark? '-' cs
  let (day, cs) ← number? 2 cs
  let cs ← match cs with
    | c :: rest => if c = 'T' ∨ c = 't' ∨ c = ' ' then some rest else none
    | [] => none
  let (hour, cs) ← number? 2 cs
  let cs ← mark? ':' cs
  let (minute, cs) ← number? 2 cs
  let cs ← mark? ':' cs
  let (second, cs) ← number? 2 cs
  let (nanos, cs) ← fraction? cs
  let (offset, cs) ← offset? cs
  if ¬ (Text.trimStart cs).isEmpty then none
  else if year < firstDay.year ∨ lastDay.year < year ∨ month < 1 ∨ 12 < month then none
  else if day < 1 ∨ daysInMonth year month < day then none
  else if 23 < hour ∨ 59 < minute ∨ 60 < second then none
  else
    let days := dayNumber ⟨year, month, day⟩
    let ofDay := Int.ofNat (hour * 3600 + minute * 60 + Nat.min second 59)
    let leap := if second = 60 then 1000000000 else 0
    let seconds := days * 86400 + ofDay - offset
    if dayNumber firstDay ≤ seconds / 86400 ∧ seconds / 86400 ≤ dayNumber lastDay then
      some ⟨seconds, nanos + leap⟩
    else none

end Timestamp

end LinkReliability
