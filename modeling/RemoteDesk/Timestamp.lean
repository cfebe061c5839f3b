import RemoteDesk.Text.Blank

/-! # Timestamps

A timestamp is a moment in UTC to the nanosecond, given by its day and the time within the day. It is
read from the date-and-time form of the internet, with any offset, and printed with the offset `Z`.
Reading allows space around the numbers and fewer digits than the form asks for. A leap second keeps
its own name: it is the second before it with a second's worth of nanoseconds more.
-/

namespace RemoteDesk

/-- A moment in UTC. -/
structure Timestamp where
  /-- Days since 1970-01-01. -/
  day : Int
  /-- Seconds since the start of the day. -/
  second : Nat
  /-- Nanoseconds within the second; a thousand million more for a leap second. -/
  nano : Nat
  deriving Repr, DecidableEq

namespace Timestamp

/-! ## The calendar -/

def isLeapYear (year : Int) : Bool :=
  year % 4 = 0 && (year % 100 ≠ 0 || year % 400 = 0)

def daysInMonth (year : Int) (month : Nat) : Nat :=
  if month = 2 then (if isLeapYear year then 29 else 28)
  else if month = 4 ∨ month = 6 ∨ month = 9 ∨ month = 11 then 30
  else 31

/-- The days before the first of a month, counted from the first of March of the same count of
    years. -/
def daysBeforeMonth (monthFromMarch : Nat) : Nat :=
  (153 * monthFromMarch + 2) / 5

/-- Days since 1970-01-01 of a date. Years count from March here, so that a leap day comes last. -/
def dayOfDate (year : Int) (month day : Nat) : Int :=
  let y := if month ≤ 2 then year - 1 else year
  let m := if month ≤ 2 then month + 9 else month - 3
  y * 365 + y / 4 - y / 100 + y / 400 + daysBeforeMonth m + day - 719469

structure Date where
  year : Int
  month : Nat
  day : Nat
  deriving Repr, DecidableEq

def dateOfDay (day : Int) : Date :=
  let z := day + 719468
  let era := z / 146097
  let dayOfEra := (z % 146097).toNat
  let yearOfEra := (dayOfEra - dayOfEra / 1460 + dayOfEra / 36524 - dayOfEra / 146096) / 365
  let dayOfYear := dayOfEra - (365 * yearOfEra + yearOfEra / 4 - yearOfEra / 100)
  let m := (5 * dayOfYear + 2) / 153
  let month := if m < 10 then m + 3 else m - 9
  { year := era * 400 + yearOfEra + (if month ≤ 2 then 1 else 0)
    month := month
    day := dayOfYear - daysBeforeMonth m + 1 }

/-- The years that a date may lie in. -/
def inCalendar (year : Int) : Bool :=
  -262143 ≤ year && year ≤ 262142

/-! ## Printing -/

/-- A number with zeros before it up to a width. -/
def padded (width n : Nat) : List Char :=
  let digits := Nat.toDigits 10 n
  List.replicate (width - digits.length) '0' ++ digits

/-- A year: four digits, or a sign and at least four digits outside the years 0 to 9999. -/
def printYear (year : Int) : List Char :=
  if 0 ≤ year ∧ year ≤ 9999 then padded 4 year.toNat
  else (if year < 0 then '-' else '+') :: padded 4 year.natAbs

/-- The fraction of a second: none, or three, six or nine digits, the fewest that lose nothing. -/
def printFraction (nano : Nat) : List Char :=
  if nano = 0 then []
  else if nano % 1000000 = 0 then '.' :: padded 3 (nano / 1000000)
  else if nano % 1000 = 0 then '.' :: padded 6 (nano / 1000)
  else '.' :: padded 9 nano

def print (t : Timestamp) : List Char :=
  let date := dateOfDay t.day
  let leap := t.nano / 1000000000
  printYear date.year ++ '-' :: padded 2 date.month ++ '-' :: padded 2 date.day
    ++ 'T' :: padded 2 (t.second / 3600) ++ ':' :: padded 2 (t.second / 60 % 60)
    ++ ':' :: padded 2 (t.second % 60 + leap) ++ printFraction (t.nano % 1000000000) ++ ['Z']

/-! ## Reading -/

def isDigit (c : Char) : Bool :=
  '0' ≤ c && c ≤ '9'

/-- The number that digits spell. -/
def valueOf (digits : List Char) : Nat :=
  digits.foldl (fun n c => n * 10 + (c.toNat - 48)) 0

/-- The number that a text starts with, after space, and the rest; at most `width` digits of it. -/
def takeNumber (width : Nat) (cs : List Char) : Option (Nat × List Char) :=
  let digits := ((Text.trimStart cs).takeWhile isDigit).take width
  if digits = [] then none
  else some (valueOf digits, (Text.trimStart cs).drop digits.length)

/-- The year that a text starts with: up to four digits, or any number of them after a sign. -/
def takeYear (cs : List Char) : Option (Int × List Char) :=
  match Text.trimStart cs with
  | '-' :: rest => (signed rest).map fun (n, after) => (-(n : Int), after)
  | '+' :: rest => (signed rest).map fun (n, after) => ((n : Int), after)
  | cs => (takeNumber 4 cs).map fun (n, after) => ((n : Int), after)
where
  signed (cs : List Char) : Option (Nat × List Char) :=
    let digits := cs.takeWhile isDigit
    if digits = [] then none else some (valueOf digits, cs.drop digits.length)

/-- What follows a mark, which may have space before it. -/
def after (mark : Char) (cs : List Char) : Option (List Char) :=
  match Text.trimStart cs with
  | c :: rest => if c = mark then some rest else none
  | [] => none

/-- The nanoseconds after a point, if there is one; digits beyond the ninth do not count. -/
def takeFraction (cs : List Char) : Option (Nat × List Char) :=
  match cs with
  | '.' :: rest =>
    let digits := rest.takeWhile isDigit
    if digits = [] then none
    else
      let kept := digits.take 9
      some (valueOf kept * Nat.pow 10 (9 - kept.length), rest.drop digits.length)
  | _ => some (0, cs)

/-- The offset from UTC in seconds, and what follows it. -/
def takeOffset (cs : List Char) : Option (Int × List Char) :=
  match cs with
  | [] => none
  | c :: rest =>
    if c = 'Z' ∨ c = 'z' then some (0, rest)
    else if (cs.take 3).map Char.toLower = ['u', 't', 'c'] then some (0, cs.drop 3)
    else
      let sign : Option Int :=
        if c = '+' then some 1 else if c = '-' ∨ c = '\u2212' then some (-1) else none
      match sign, rest with
      | some sign, h :: h' :: rest =>
        if isDigit h ∧ isDigit h' then
          match rest.dropWhile (fun c => c == ':' || Text.isBlankChar c) with
          | m :: m' :: rest =>
            if isDigit m ∧ isDigit m' ∧ m < '6' then
              some (sign * (valueOf [h, h'] * 3600 + valueOf [m, m'] * 60 : Nat), rest)
            else none
          | _ => none
        else none
      | _, _ => none

/-- The moment at which clocks with an offset show a date and a time. -/
def ofLocal (date : Date) (hour minute second nano : Nat) (offset : Int) : Option Timestamp :=
  let leap := second = 60
  let inDay : Int := hour * 3600 + minute * 60 + (if leap then 59 else second : Nat) - offset
  let day := dayOfDate date.year date.month date.day + inDay / 86400
  if 1 ≤ date.month ∧ date.month ≤ 12 ∧ 1 ≤ date.day ∧ date.day ≤ daysInMonth date.year date.month
      ∧ inCalendar date.year ∧ hour < 24 ∧ minute < 60 ∧ second ≤ 60
      ∧ -86400 < offset ∧ offset < 86400 ∧ inCalendar (dateOfDay day).year then
    some ⟨day, (inDay % 86400).toNat, if leap then nano + 1000000000 else nano⟩
  else none

def parse (text : String) : Option Timestamp := do
  let (year, cs) ← takeYear text.toList
  let cs ← after '-' cs
  let (month, cs) ← takeNumber 2 cs
  let cs ← after '-' cs
  let (day, cs) ← takeNumber 2 cs
  match cs with
  | [] => none
  | mark :: cs =>
    if mark = 'T' ∨ mark = 't' ∨ mark = ' ' then
      let (hour, cs) ← takeNumber 2 cs
      let cs ← after ':' cs
      let (minute, cs) ← takeNumber 2 cs
      let cs ← after ':' cs
      let (second, cs) ← takeNumber 2 cs
      let (nano, cs) ← takeFraction cs
      let (offset, cs) ← takeOffset (Text.trimStart cs)
      if Text.trimStart cs = [] then ofLocal ⟨year, month, day⟩ hour minute second nano offset
      else none
    else none

end Timestamp

end RemoteDesk
