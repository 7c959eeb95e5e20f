import AdmissionGate.Text.Blank
import AdmissionGate.Numeral

/-!
# Timestamps

A point in time is written as a date, a letter `T` or a space, a time of day and an offset from Coordinated Universal Time:
`2021-03-29T23:02:16+02:00`.  The reader is lenient.  Blank characters may stand before each number, before each separator
and around the offset; month, day, hour, minute and second may have one digit; a year may carry a sign and then any number
of digits; a fraction of a second may have any number of digits, of which nine count.  The offset is `Z`, `UTC` or a sign,
two digits for the hours and two for the minutes, with any colons and blanks between them.

The date must exist in the Gregorian calendar, continued in both directions.  A minute may have a second 60.  A timestamp
is kept to the nanosecond in Coordinated Universal Time, and shown in whole seconds.
-/

namespace AdmissionGate.Review

/-- A point in time, in Coordinated Universal Time. -/
structure Timestamp where
  year : Int
  month : Nat
  day : Nat
  hour : Nat
  minute : Nat
  /-- At most 60, for a leap second. -/
  second : Nat
  /-- How much of the next second has passed, in nanoseconds. -/
  nanosecond : Nat
deriving DecidableEq, Repr

namespace Timestamp

/-! ### The calendar -/

def isLeap (year : Int) : Bool :=
  year % 4 == 0 && (year % 100 != 0 || year % 400 == 0)

def daysIn (year : Int) (month : Nat) : Nat :=
  match month with
  | 2 => if isLeap year then 29 else 28
  | 4 | 6 | 9 | 11 => 30
  | _ => 31

/-- The years that the calendar reaches. -/
def inCalendar (year : Int) : Bool :=
  -262143 ≤ year && year ≤ 262142

def nextDay (t : Timestamp) : Timestamp :=
  if t.day < daysIn t.year t.month then { t with day := t.day + 1 }
  else if t.month < 12 then { t with month := t.month + 1, day := 1 }
  else { t with year := t.year + 1, month := 1, day := 1 }

def previousDay (t : Timestamp) : Timestamp :=
  if 1 < t.day then { t with day := t.day - 1 }
  else if 1 < t.month then { t with month := t.month - 1, day := daysIn t.year (t.month - 1) }
  else { t with year := t.year - 1, month := 12, day := 31 }

/-- The time some minutes before, less than a day away in either direction. -/
def minusMinutes (t : Timestamp) (minutes : Int) : Timestamp :=
  let total : Int := t.hour * 60 + t.minute - minutes
  let inDay (total : Int) (t : Timestamp) : Timestamp :=
    { t with hour := (total / 60).toNat, minute := (total % 60).toNat }
  if total < 0 then inDay (total + 1440) t.previousDay
  else if 1440 ≤ total then inDay (total - 1440) t.nextDay
  else inDay total t

/-! ### Reading -/

/-- The text from its first character that is not blank on. -/
def skipBlank (s : List Char) : List Char :=
  s.dropWhile Text.isBlank

/-- Numbers are told apart up to here, which is beyond the calendar. -/
def greatestNumber : Nat := 1000000

/-- Read a number of at least one and at most `width` digits. -/
def readNumber (width : Nat) (s : List Char) : Option (Nat × List Char) :=
  let digits := (s.take width).takeWhile Char.isDigit
  if digits = [] then none
  else some (Numeral.valueUpTo greatestNumber digits, s.drop digits.length)

/-- Read a number of at most two digits after blank characters, if it lies between two bounds. -/
def readPart (low high : Nat) (s : List Char) : Option (Nat × List Char) := do
  let (n, r) ← readNumber 2 (skipBlank s)
  if low ≤ n ∧ n ≤ high then some (n, r) else none

def readSeparator (c : Char) (s : List Char) : Option (List Char) :=
  match skipBlank s with
  | [] => none
  | d :: r => if d = c then some r else none

/-- Read a year: of at most four digits, or of any number of digits after a sign. -/
def readYear (s : List Char) : Option (Int × List Char) :=
  match skipBlank s with
  | '-' :: r => (readNumber r.length r).map fun (n, r) => (-n, r)
  | '+' :: r => (readNumber r.length r).map fun (n, r) => (n, r)
  | r => (readNumber 4 r).map fun (n, r) => (n, r)

/-- The nanoseconds that the digits after a point stand for; digits beyond the ninth are of no account. -/
def nanoseconds (digits : List Char) : Nat :=
  Numeral.valueUpTo 1000000000 ((digits ++ List.replicate 9 '0').take 9)

/-- Read a fraction of a second in nanoseconds, if there is one. -/
def readFraction (s : List Char) : Option (Nat × List Char) :=
  match s with
  | '.' :: r =>
    let digits := r.takeWhile Char.isDigit
    if digits = [] then none else some (nanoseconds digits, r.drop digits.length)
  | r => some (0, r)

/-- Whether the sign of an offset points west. -/
def isWest (c : Char) : Option Bool :=
  if c = '+' then some false
  else if c = '-' ∨ c.toNat = 0x2212 then some true
  else none

/-- Read an offset from Coordinated Universal Time, in minutes. -/
def readOffset (s : List Char) : Option (Int × List Char) :=
  match s with
  | [] => none
  | c :: r =>
    if c = 'Z' ∨ c = 'z' then some (0, r)
    else if (s.take 3).map Char.toLower = ['u', 't', 'c'] then some (0, s.drop 3)
    else
      match isWest c, r with
      | some west, h₁ :: h₂ :: r =>
        match r.dropWhile fun c => c == ':' || Text.isBlank c with
        | m₁ :: m₂ :: r =>
          if h₁.isDigit ∧ h₂.isDigit ∧ m₁.isDigit ∧ m₁ < '6' ∧ m₂.isDigit then
            let hours := Numeral.digitValue h₁ * 10 + Numeral.digitValue h₂
            let minutes : Int := hours * 60 + Numeral.digitValue m₁ * 10 + Numeral.digitValue m₂
            some (if west then -minutes else minutes, r)
          else none
        | _ => none
      | _, _ => none

def parse (text : String) : Option Timestamp := do
  let (year, s) ← readYear text.toList
  let s ← readSeparator '-' s
  let (month, s) ← readPart 1 12 s
  let s ← readSeparator '-' s
  let (day, s) ← readPart 1 31 s
  let s ←
    match s with
    | c :: s => if c = 'T' ∨ c = 't' ∨ c = ' ' then some s else none
    | [] => none
  let (hour, s) ← readPart 0 23 s
  let s ← readSeparator ':' s
  let (minute, s) ← readPart 0 59 s
  let s ← readSeparator ':' s
  let (second, s) ← readPart 0 60 s
  let (nanosecond, s) ← readFraction s
  let (offset, s) ← readOffset (skipBlank s)
  let t := minusMinutes ⟨year, month, day, hour, minute, second, nanosecond⟩ offset
  if inCalendar year ∧ day ≤ daysIn year month ∧ offset.natAbs < 1440 ∧ skipBlank s = [] ∧ inCalendar t.year then
    some t
  else none

/-! ### Showing -/

/-- A number with zeros in front of it up to a width. -/
def padded (width n : Nat) : String :=
  let digits := Nat.toDigits 10 n
  String.ofList (List.replicate (width - digits.length) '0' ++ digits)

/-- A year: four digits, and a sign if it has more or is negative. -/
def yearText (year : Int) : String :=
  if year < 0 then "-" ++ padded 4 year.natAbs
  else if 9999 < year then "+" ++ padded 4 year.natAbs
  else padded 4 year.natAbs

/-- The point in time as a text, in whole seconds. -/
def text (t : Timestamp) : String :=
  yearText t.year ++ "-" ++ padded 2 t.month ++ "-" ++ padded 2 t.day ++ "T" ++ padded 2 t.hour ++ ":"
    ++ padded 2 t.minute ++ ":" ++ padded 2 t.second ++ "Z"

end Timestamp

end AdmissionGate.Review
