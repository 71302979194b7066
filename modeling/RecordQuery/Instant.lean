import RecordQuery.Text.Digits

/-! Points in time, in UTC, as a calendar date and a time of day. The second 60 of a minute is kept
as a leap second; it comes after all of second 59 and before the next minute. -/
namespace RecordQuery

def isLeapYear (year : Int) : Bool := year % 4 == 0 && (year % 100 != 0 || year % 400 == 0)

def daysIn (year : Int) (month : Nat) : Nat :=
  if month = 2 then if isLeapYear year then 29 else 28
  else if month = 4 ∨ month = 6 ∨ month = 9 ∨ month = 11 then 30
  else 31

/-- A day of the Gregorian calendar, extended to all years. -/
structure Date where
  year : Int
  month : Nat
  day : Nat
  deriving DecidableEq, Repr

namespace Date

def isValid (d : Date) : Bool :=
  1 ≤ d.month && d.month ≤ 12 && 1 ≤ d.day && d.day ≤ daysIn d.year d.month

def next (d : Date) : Date :=
  if d.day < daysIn d.year d.month then ⟨d.year, d.month, d.day + 1⟩
  else if d.month < 12 then ⟨d.year, d.month + 1, 1⟩
  else ⟨d.year + 1, 1, 1⟩

def previous (d : Date) : Date :=
  if 1 < d.day then ⟨d.year, d.month, d.day - 1⟩
  else if 1 < d.month then ⟨d.year, d.month - 1, daysIn d.year (d.month - 1)⟩
  else ⟨d.year - 1, 12, 31⟩

end Date

/-- A day and a time on it; `minute` counts from midnight, and `second` is at most 60. -/
structure Instant where
  date : Date
  minute : Nat
  second : Nat
  nano : Nat
  deriving DecidableEq, Repr

namespace Instant

def minutesPerDay : Nat := 24 * 60

def compare (a b : Instant) : Ordering :=
  Ord.compare
    [a.date.year, a.date.month, a.date.day, a.minute, a.second, a.nano]
    [b.date.year, b.date.month, b.date.day, b.minute, b.second, b.nano]

/-- The same reading of the clock that many minutes earlier, less than a day. -/
def earlier (t : Instant) (minutes : Int) : Instant :=
  let minute := (t.minute : Int) - minutes
  if minute < 0 then { t with date := t.date.previous, minute := (minute + minutesPerDay).toNat }
  else if minutesPerDay ≤ minute then
    { t with date := t.date.next, minute := (minute - minutesPerDay).toNat }
  else { t with minute := minute.toNat }

def padded (width n : Nat) : List Char := zeros (width - digitCount n) ++ numeral n

/-- Four digits; a sign in front of what does not fit them. -/
def yearChars (year : Int) : List Char :=
  if 0 ≤ year ∧ year ≤ 9999 then padded 4 year.toNat
  else (if year < 0 then '-' else '+') :: padded 4 year.natAbs

/-- No fraction, or 3, 6 or 9 digits of one, the fewest that are exact. -/
def fractionChars (nano : Nat) : List Char :=
  if nano = 0 then []
  else if nano % 1000000 = 0 then '.' :: padded 3 (nano / 1000000)
  else if nano % 1000 = 0 then '.' :: padded 6 (nano / 1000)
  else '.' :: padded 9 nano

/-- The form of RFC 3339 with the offset `+00:00`. -/
def toChars (t : Instant) : List Char :=
  yearChars t.date.year ++ '-' :: padded 2 t.date.month ++ '-' :: padded 2 t.date.day ++
    'T' :: padded 2 (t.minute / 60) ++ ':' :: padded 2 (t.minute % 60) ++
    ':' :: padded 2 t.second ++ fractionChars t.nano ++ "+00:00".toList

def toText (t : Instant) : String := String.ofList t.toChars

def takeNat? (width : Nat) (cs : List Char) : Option (Nat × List Char) :=
  if cs.length < width then none
  else (readNat? (cs.take width)).map fun n => (n, cs.drop width)

def takeChar? (allowed : List Char) : List Char → Option (List Char)
  | c :: rest => if c ∈ allowed then some rest else none
  | [] => none

/-- Reads an optional point and digits; digits after the ninth are dropped. -/
def takeFraction? : List Char → Option (Nat × List Char)
  | '.' :: cs =>
    let digits := cs.takeWhile isDecimalDigit
    if digits.isEmpty then none
    else
      let nine := digits.take 9
      some (Nat.ofDigitChars 10 (nine ++ zeros (9 - nine.length)) 0, cs.dropWhile isDecimalDigit)
  | cs => some (0, cs)

def takeClock? (cs : List Char) : Option (Nat × List Char) := do
  let (hour, cs) ← takeNat? 2 cs
  let cs ← takeChar? [':'] cs
  let (minute, cs) ← takeNat? 2 cs
  if hour < 24 ∧ minute < 60 then some (60 * hour + minute, cs) else none

/-- Reads `Z` or a signed `hh:mm` at the end of a text, in minutes east. -/
def offset? (cs : List Char) : Option Int :=
  match cs with
  | ['Z'] | ['z'] => some 0
  | sign :: cs => do
    let (minutes, rest) ← takeClock? cs
    if rest ≠ [] then none
    else if sign = '+' then some minutes
    else if sign = '-' ∨ sign = '\u2212' then some (-minutes)
    else none
  | [] => none

def ofChars? (cs : List Char) : Option Instant := do
  let (year, cs) ← takeNat? 4 cs
  let cs ← takeChar? ['-'] cs
  let (month, cs) ← takeNat? 2 cs
  let cs ← takeChar? ['-'] cs
  let (day, cs) ← takeNat? 2 cs
  let cs ← takeChar? ['T', 't', ' '] cs
  let (minute, cs) ← takeClock? cs
  let cs ← takeChar? [':'] cs
  let (second, cs) ← takeNat? 2 cs
  let (nano, cs) ← takeFraction? cs
  let offset ← offset? cs
  let date : Date := ⟨year, month, day⟩
  if date.isValid ∧ second ≤ 60 then some (earlier ⟨date, minute, second, nano⟩ offset) else none

def ofText? (s : String) : Option Instant := ofChars? s.toList

end Instant

end RecordQuery
