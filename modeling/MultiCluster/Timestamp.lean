import MultiCluster.Text.Numeral

/-! Moments in the form of RFC 3339, read leniently and written in UTC. -/
namespace MultiCluster

open Text

/-- A moment as seconds since 1970 and nanoseconds. In a leap second, which is counted as part of
the second before it, the nanoseconds are 10^9 or more. -/
structure Timestamp where
  seconds : Int
  nanos : Nat
  deriving DecidableEq, Repr

namespace Timestamp

/-- Whether the year has a 29th of February. -/
def isLeapYear (year : Int) : Bool := year % 4 == 0 && (year % 100 != 0 || year % 400 == 0)

def daysInMonth (year : Int) (month : Nat) : Nat :=
  if month = 2 then (if isLeapYear year then 29 else 28)
  else if month = 4 || month = 6 || month = 9 || month = 11 then 30 else 31

/-- Days from the first of January 1970 to a date. Years are counted from March, so that a leap day
is the last of its year. -/
def dayNumber (year : Int) (month day : Nat) : Int :=
  let y := if month ≤ 2 then year - 1 else year
  let monthFromMarch : Int := (month + 9) % 12
  let dayOfYear := (153 * monthFromMarch + 2) / 5 + day - 1
  y * 365 + y / 4 - y / 100 + y / 400 + dayOfYear - 719468

/-- The date that is a number of days after the first of January 1970: year, month and day. -/
def dateOfDay (number : Int) : Int × Nat × Nat :=
  let z := number + 719468
  let era := z / 146097
  let dayOfEra := z % 146097
  let yearOfEra := (dayOfEra - dayOfEra / 1460 + dayOfEra / 36524 - dayOfEra / 146096) / 365
  let dayOfYear := dayOfEra - (365 * yearOfEra + yearOfEra / 4 - yearOfEra / 100)
  let monthFromMarch := (5 * dayOfYear + 2) / 153
  let day := dayOfYear - (153 * monthFromMarch + 2) / 5 + 1
  let month := if monthFromMarch < 10 then monthFromMarch + 3 else monthFromMarch - 9
  let year := yearOfEra + era * 400 + (if month ≤ 2 then 1 else 0)
  (year, month.toNat, day.toNat)

def minYear : Int := -262143

def maxYear : Int := 262142

def secondsPerDay : Int := 86400

/-- Whether a number of seconds since 1970 lies in a year that has dates. -/
def hasDate (seconds : Int) : Bool :=
  dayNumber minYear 1 1 * secondsPerDay ≤ seconds &&
    seconds < (dayNumber maxYear 12 31 + 1) * secondsPerDay

/-- One to `most` digits. -/
def readUpTo (most : Nat) (cs : List Char) : Option (Nat × List Char) :=
  let digits := (cs.take most).takeWhile Char.isDigit
  if digits.isEmpty then none else some (digitsValue digits, cs.drop digits.length)

/-- A year: up to four digits, or a sign and any number of them. -/
def readYear (cs : List Char) : Option (Int × List Char) :=
  match cs with
  | '-' :: rest => (readUpTo rest.length rest).map fun r => (-(r.1 : Int), r.2)
  | '+' :: rest => (readUpTo rest.length rest).map fun r => ((r.1 : Int), r.2)
  | _ => (readUpTo 4 cs).map fun r => ((r.1 : Int), r.2)

/-- White space, then the mark. -/
def readMark (mark : Char) (cs : List Char) : Option (List Char) :=
  match trimStart cs with
  | c :: rest => if c = mark then some rest else none
  | [] => none

/-- White space, then one or two digits that write a number between the bounds. -/
def readPart (low high : Nat) (cs : List Char) : Option (Nat × List Char) := do
  let (n, rest) ← readUpTo 2 (trimStart cs)
  if low ≤ n && n ≤ high then some (n, rest) else none

/-- A fraction of a second, if a point follows; of its digits the first nine count. -/
def readFraction (cs : List Char) : Option (Nat × List Char) :=
  match cs with
  | '.' :: rest =>
    let digits := rest.takeWhile Char.isDigit
    if digits.isEmpty then none else
    let kept := digits.take 9
    some (digitsValue kept * Nat.pow 10 (9 - kept.length), rest.dropWhile Char.isDigit)
  | _ => some (0, cs)

/-- The distance from UTC in seconds: a letter Z, the word UTC, or hours and minutes with a sign. -/
def readOffset (cs : List Char) : Option (Int × List Char) :=
  match cs with
  | 'Z' :: rest | 'z' :: rest => some (0, rest)
  | c :: rest =>
    if (cs.take 3).map Char.toUpper = ['U', 'T', 'C'] then some (0, cs.drop 3)
    else if c = '+' || c = '-' || c = '\u2212' then do
      let hours ← readDigits (rest.take 2)
      if (rest.take 2).length < 2 then none
      let rest := (rest.drop 2).dropWhile fun c => c == ':' || isBlank c
      let minutes ← readDigits (rest.take 2)
      if (rest.take 2).length < 2 || minutes > 59 || hours * 60 + minutes ≥ 1440 then none
      let seconds : Int := (hours * 60 + minutes) * 60
      return (if c = '+' then seconds else -seconds, rest.drop 2)
    else none
  | [] => none

/-- Reads a moment, which lies in a year that has dates in UTC too. The parts need no leading zeros
and may have blanks around them; date and time are separated by a letter T or a space. -/
def ofChars? (cs : List Char) : Option Timestamp := do
  let (year, cs) ← readYear (trimStart cs)
  let (month, cs) ← readPart 1 12 (← readMark '-' cs)
  let (day, cs) ← readPart 1 31 (← readMark '-' cs)
  let cs ← match cs with
    | 'T' :: rest | 't' :: rest | ' ' :: rest => some rest
    | _ => none
  let (hour, cs) ← readPart 0 23 cs
  let (minute, cs) ← readPart 0 59 (← readMark ':' cs)
  let (second, cs) ← readPart 0 60 (← readMark ':' cs)
  let (nanos, cs) ← readFraction cs
  let (offset, cs) ← readOffset (trimStart cs)
  if !(trimStart cs).isEmpty then none
  if year < minYear || maxYear < year || day > daysInMonth year month then none
  let time : Int := (hour * 60 + minute) * 60 + min second 59
  let seconds := dayNumber year month day * secondsPerDay + time - offset
  if hasDate seconds then
    return { seconds, nanos := if second = 60 then nanos + 1000000000 else nanos }
  else none

def parse? (s : String) : Option Timestamp := ofChars? s.toList

/-- The number in decimal with at least `width` digits. -/
def padded (width n : Nat) : List Char :=
  let digits := (toString n).toList
  List.replicate (width - digits.length) '0' ++ digits

/-- A year: four digits, or a sign and at least four outside the range of four digits. -/
def yearText (year : Int) : List Char :=
  if 0 ≤ year ∧ year ≤ 9999 then padded 4 year.toNat
  else (if year < 0 then '-' else '+') :: padded 4 year.natAbs

/-- A fraction of a second in three, six or nine digits, none if it is zero. -/
def fractionText (nanos : Nat) : List Char :=
  if nanos = 0 then []
  else if nanos % 1000000 = 0 then '.' :: padded 3 (nanos / 1000000)
  else if nanos % 1000 = 0 then '.' :: padded 6 (nanos / 1000)
  else '.' :: padded 9 nanos

/-- The second of the moment in UTC, without a mark of the time zone. A leap second has the
number 60. -/
def secondChars (t : Timestamp) : List Char :=
  let (year, month, day) := dateOfDay (t.seconds / secondsPerDay)
  let time := (t.seconds % secondsPerDay).toNat
  yearText year ++ '-' :: padded 2 month ++ '-' :: padded 2 day
    ++ 'T' :: padded 2 (time / 3600) ++ ':' :: padded 2 (time / 60 % 60)
    ++ ':' :: padded 2 (time % 60 + t.nanos / 1000000000)

def text (t : Timestamp) : String :=
  String.ofList (t.secondChars ++ fractionText (t.nanos % 1000000000) ++ "+00:00".toList)

/-- The moment in UTC in whole seconds. -/
def secondsText (t : Timestamp) : String := String.ofList (t.secondChars ++ ['Z'])

end Timestamp
end MultiCluster
