import Audience.Text.Integer

/-!
# Dates and timestamps

Days of the proleptic Gregorian calendar, and instants without a time zone counted to
the nanosecond.  A leap second is the last second of its minute with a fraction of one
second or more, and is written as second 60.

Instants are compared through one number, their ordinal, so comparison is a linear order.
-/

namespace Audience
namespace Time

def firstYear : Int := -262143

def lastYear : Int := 262142

def isLeapYear (year : Int) : Bool :=
  year % 4 == 0 && (year % 100 != 0 || year % 400 == 0)

/-- The number of days of a month; none for numbers that are no month. -/
def daysInMonth (year : Int) : Nat -> Nat
  | 1 | 3 | 5 | 7 | 8 | 10 | 12 => 31
  | 4 | 6 | 9 | 11 => 30
  | 2 => if isLeapYear year then 29 else 28
  | _ => 0

def IsDate (year : Int) (month day : Nat) : Prop :=
  firstYear <= year ∧ year <= lastYear ∧ 1 <= month ∧ month <= 12 ∧
    1 <= day ∧ day <= daysInMonth year month

instance (year : Int) (month day : Nat) : Decidable (IsDate year month day) := by
  unfold IsDate
  infer_instance

structure Date where
  year : Int
  month : Nat
  day : Nat
  isDate : IsDate year month day
  deriving DecidableEq

def Date.of? (year : Int) (month day : Nat) : Option Date :=
  if h : IsDate year month day then some ⟨year, month, day, h⟩ else none

def Date.next? (d : Date) : Option Date :=
  if d.day < daysInMonth d.year d.month then Date.of? d.year d.month (d.day + 1)
  else if d.month < 12 then Date.of? d.year (d.month + 1) 1
  else Date.of? (d.year + 1) 1 1

def Date.previous? (d : Date) : Option Date :=
  if 1 < d.day then Date.of? d.year d.month (d.day - 1)
  else if 1 < d.month then Date.of? d.year (d.month - 1) (daysInMonth d.year (d.month - 1))
  else Date.of? (d.year - 1) 12 31

def nanosPerSecond : Nat := 1000000000

/-- A second of a day with the nanoseconds that follow it.  One second of nanoseconds or
more is a leap second, and those follow the last second of a minute only. -/
def IsClock (second nano : Nat) : Prop :=
  second < 86400 ∧ (nano < nanosPerSecond ∨ (nano < 2 * nanosPerSecond ∧ second % 60 = 59))

instance (second nano : Nat) : Decidable (IsClock second nano) := by
  unfold IsClock
  infer_instance

structure Timestamp where
  date : Date
  second : Nat
  nano : Nat
  isClock : IsClock second nano
  deriving DecidableEq

namespace Timestamp

def of? (date : Date) (second nano : Nat) : Option Timestamp :=
  if h : IsClock second nano then some ⟨date, second, nano, h⟩ else none

def midnight (date : Date) : Timestamp :=
  ⟨date, 0, 0, by decide⟩

/-- The instant shown as hour, minute and second, where second 60 is a leap second. -/
def ofClock? (date : Date) (hour minute second nano : Nat) : Option Timestamp :=
  if hour < 24 && minute < 60 && second <= 60 && nano < nanosPerSecond then
    if second == 60 then
      of? date (hour * 3600 + minute * 60 + 59) (nanosPerSecond + nano)
    else
      of? date (hour * 3600 + minute * 60 + second) nano
  else
    none

/-- The same instant on a clock that is `offset` seconds behind, for less than a day. -/
def behind? (t : Timestamp) (offset : Int) : Option Timestamp :=
  let second : Int := (t.second : Int) - offset
  if second < 0 then
    t.date.previous?.bind fun date => of? date (second + 86400).toNat t.nano
  else if second < 86400 then
    of? t.date second.toNat t.nano
  else
    t.date.next?.bind fun date => of? date (second - 86400).toNat t.nano

/-!
# Order
-/

/-- The place of an instant in time: the larger, the later. -/
def ordinal (t : Timestamp) : Int :=
  (((t.date.year * 12 + (t.date.month - 1)) * 31 + (t.date.day - 1)) * 86400 + t.second) *
    (2 * nanosPerSecond) + t.nano

def le (s t : Timestamp) : Bool :=
  s.ordinal <= t.ordinal

def lt (s t : Timestamp) : Bool :=
  s.ordinal < t.ordinal

/-!
# Written forms
-/

/-- A year in four digits, with a sign when it lies outside 0 to 9999. -/
def yearText (year : Int) : String :=
  let digits := Text.padded 4 year.natAbs
  if year < 0 then "-" ++ digits
  else if 9999 < year then "+" ++ digits
  else digits

def dateText (t : Timestamp) : String :=
  yearText t.date.year ++ "-" ++ Text.padded 2 t.date.month ++ "-" ++ Text.padded 2 t.date.day

def clockText (t : Timestamp) : String :=
  Text.padded 2 (t.second / 3600) ++ ":" ++ Text.padded 2 (t.second / 60 % 60) ++ ":" ++
    Text.padded 2 (t.second % 60 + t.nano / nanosPerSecond)

/-- The fraction of the second in the fewest of three, six or nine digits that hold it. -/
def fractionText (t : Timestamp) : String :=
  let nano := t.nano % nanosPerSecond
  if nano == 0 then ""
  else if nano % 1000000 == 0 then "." ++ Text.padded 3 (nano / 1000000)
  else if nano % 1000 == 0 then "." ++ Text.padded 6 (nano / 1000)
  else "." ++ Text.padded 9 nano

def sqlText (t : Timestamp) : String :=
  t.dateText ++ " " ++ t.clockText

def exactText (t : Timestamp) : String :=
  t.dateText ++ "T" ++ t.clockText ++ t.fractionText

/-- The form with six decimals, cut off, that marks a time as universal time. -/
def microsText (t : Timestamp) : String :=
  t.dateText ++ "T" ++ t.clockText ++ "." ++
    Text.padded 6 (t.nano % nanosPerSecond / 1000) ++ "Z"

end Timestamp
end Time
end Audience
