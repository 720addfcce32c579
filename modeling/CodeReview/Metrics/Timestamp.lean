import CodeReview.Text.Blank
import CodeReview.Text.Search

/-!
Points in time, in universal time. They are read from calendar texts such as
`2024-05-01T12:30:00.25+02:00`, in which white space may stand before every part but the seconds'
fraction, and written with as few of 0, 3, 6 or 9 places of seconds as hold their value.
-/

namespace CodeReview

open Text

structure Timestamp where
  /-- Days since the first of March of the year 0, in the calendar extended to all years. -/
  day : Int
  /-- Second of the day, at most 86399. -/
  second : Nat
  /-- From a thousand million on, the second is the one before a leap second, which is meant. -/
  nanosecond : Nat
  deriving DecidableEq, Repr

namespace Timestamp

section Calendar

def isLeapYear (year : Int) : Bool := year % 4 == 0 && (year % 100 != 0 || year % 400 == 0)

def daysInMonth (year : Int) (month : Nat) : Nat :=
  if month == 2 then (if isLeapYear year then 29 else 28)
  else if month == 4 || month == 6 || month == 9 || month == 11 then 30
  else 31

/-- Days before a month when months are counted from March. -/
def daysBefore (month : Nat) : Nat := (153 * month + 2) / 5

/-- Years begin in March, so that the leap day is the last of its year. -/
def dayOf (year : Int) (month day : Nat) : Int :=
  let y := if month ≤ 2 then year - 1 else year
  let m := (month + 9) % 12
  365 * y + y / 4 - y / 100 + y / 400 + daysBefore m + day - 1

structure Date where
  year : Int
  month : Nat
  day : Nat
  deriving DecidableEq, Repr

def dateOf (days : Int) : Date :=
  let era := days / 146097
  let inEra := (days % 146097).toNat
  let year := (inEra - inEra / 1460 + inEra / 36524 - inEra / 146096) / 365
  let inYear := inEra - (365 * year + year / 4 - year / 100)
  let m := (5 * inYear + 2) / 153
  let month := if m < 10 then m + 3 else m - 9
  { year := 400 * era + year + (if month ≤ 2 then 1 else 0)
    month
    day := inYear - daysBefore m + 1 }

def firstYear : Int := -262143

def lastYear : Int := 262142

end Calendar

section Reading

def digitsValue (digits : List Char) : Nat := digits.foldl (fun n c => n * 10 + (c.toNat - 48)) 0

def number? (width : Nat) (cs : List Char) : Option (Nat × List Char) :=
  match (cs.take width).takeWhile Char.isDigit with
  | [] => none
  | digits => some (digitsValue digits, cs.drop digits.length)

def part? (width : Nat) (cs : List Char) : Option (Nat × List Char) := number? width (trimStart cs)

def mark? (c : Char) (cs : List Char) : Option (List Char) := dropLead? (trimStart cs) [c]

/-- A year of four digits, or of any number of digits after a sign. -/
def year? (cs : List Char) : Option (Int × List Char) :=
  match trimStart cs with
  | '-' :: rest => (number? rest.length rest).map fun (n, rest) => (-(n : Int), rest)
  | '+' :: rest => (number? rest.length rest).map fun (n, rest) => ((n : Int), rest)
  | rest => (number? 4 rest).map fun (n, rest) => ((n : Int), rest)

/-- The fraction of a second; places beyond the ninth are passed over. -/
def nanoseconds? : List Char → Option (Nat × List Char)
  | '.' :: rest => do
      let (_, after) ← number? rest.length rest
      let digits := rest.takeWhile Char.isDigit
      let kept := digits.take 9
      return (digitsValue kept * Nat.pow 10 (9 - kept.length), after)
  | rest => some (0, rest)

def isOffsetGap (c : Char) : Bool := c == ':' || isBlank c

/-- Hours and minutes ahead of universal time, in seconds. -/
def offset? (cs : List Char) : Option (Int × List Char) := do
  let (negative, rest) ← match cs with
    | '+' :: rest => some (false, rest)
    | '-' :: rest | '\u2212' :: rest => some (true, rest)
    | _ => none
  let twoDigits (cs : List Char) : Option (Nat × List Char) :=
    match cs with
    | a :: b :: rest => if a.isDigit && b.isDigit then some (digitsValue [a, b], rest) else none
    | _ => none
  let (hours, rest) ← twoDigits rest
  let (minutes, rest) ← twoDigits (rest.dropWhile isOffsetGap)
  if 59 < minutes then none
  else
    let seconds : Int := (hours * 3600 + minutes * 60 : Nat)
    some (if negative then -seconds else seconds, rest)

def zone? (cs : List Char) : Option (Int × List Char) :=
  match trimStart cs with
  | 'Z' :: rest | 'z' :: rest => some (0, rest)
  | a :: b :: c :: rest =>
      if [a, b, c].map Char.toUpper == "UTC".toList then some (0, rest) else offset? (a :: b :: c :: rest)
  | rest => offset? rest

def ofLocal (day : Int) (second nanosecond : Nat) (offset : Int) : Timestamp :=
  let total := (second : Int) - offset
  { day := day + total / 86400, second := (total % 86400).toNat, nanosecond }

def parse? (text : String) : Option Timestamp := do
  let (year, rest) ← year? text.toList
  let (month, rest) ← part? 2 (← mark? '-' rest)
  let (day, rest) ← part? 2 (← mark? '-' rest)
  let rest ← match rest with
    | 't' :: rest | 'T' :: rest | ' ' :: rest => some rest
    | _ => none
  let (hour, rest) ← part? 2 rest
  let (minute, rest) ← part? 2 (← mark? ':' rest)
  let (second, rest) ← part? 2 (← mark? ':' rest)
  let (nano, rest) ← nanoseconds? rest
  let (offset, rest) ← zone? rest
  if !(trimStart rest).isEmpty then none
  else if month < 1 || 12 < month || 23 < hour || 59 < minute || 60 < second then none
  else if year < firstYear || lastYear < year then none
  else if day < 1 || daysInMonth year month < day then none
  else if 86400 ≤ offset.natAbs then none
  else
    let (second, nano) := if second == 60 then (59, nano + 1000000000) else (second, nano)
    let found := ofLocal (dayOf year month day) (hour * 3600 + minute * 60 + second) nano offset
    let year := (dateOf found.day).year
    if year < firstYear || lastYear < year then none else some found

end Reading

section Writing

def padded (width n : Nat) : String :=
  let digits := toString n
  String.ofList (List.replicate (width - digits.length) '0') ++ digits

def yearText (year : Int) : String :=
  if 0 ≤ year && year ≤ 9999 then padded 4 year.toNat
  else (if year < 0 then "-" else "+") ++ padded 4 year.natAbs

def fractionText (nano : Nat) : String :=
  if nano == 0 then ""
  else if nano % 1000000 == 0 then "." ++ padded 3 (nano / 1000000)
  else if nano % 1000 == 0 then "." ++ padded 6 (nano / 1000)
  else "." ++ padded 9 nano

def text (t : Timestamp) : String :=
  let date := dateOf t.day
  let second := t.second % 60 + t.nanosecond / 1000000000
  yearText date.year ++ "-" ++ padded 2 date.month ++ "-" ++ padded 2 date.day ++ "T" ++
    padded 2 (t.second / 3600) ++ ":" ++ padded 2 (t.second / 60 % 60) ++ ":" ++ padded 2 second ++
    fractionText (t.nanosecond % 1000000000) ++ "Z"

def ofUnix (seconds : Int) (nanosecond : Nat) : Timestamp :=
  { day := 719468 + seconds / 86400, second := (seconds % 86400).toNat, nanosecond }

end Writing

end Timestamp

end CodeReview
