import Audience.Time.Pattern

/-!
# Reading dates and times

The spellings in which a user may enter a date.  They are tried in a fixed order: the
internet date-time form first, then date-times, then days alone, which stand for their
midnight.
-/

namespace Audience
namespace Time

open Text

def readExactly? (count : Nat) (s : List Char) : Option (Nat × List Char) :=
  let digits := s.take count
  if digits.length == count then
    (natural? digits).map fun n => (n, s.drop count)
  else
    none

def readMark? (c : Char) : List Char -> Option (List Char)
  | first :: rest => if first == c then some rest else none
  | [] => none

/-- An offset from universal time in seconds: `Z`, or a sign, two digits of hours, a colon
and two digits of minutes. -/
def readOffset? : List Char -> Option (Int × List Char)
  | [] => none
  | c :: rest =>
      if c == 'Z' || c == 'z' then
        some (0, rest)
      else if c == '+' || c == '-' || c == '\u2212' then do
        let (hours, rest) ← readExactly? 2 rest
        let rest ← readMark? ':' rest
        let (minutes, rest) ← readExactly? 2 rest
        if hours < 24 && minutes < 60 then
          let seconds : Int := (hours * 3600 + minutes * 60 : Nat)
          some (if c == '+' then seconds else -seconds, rest)
        else
          none
      else
        none

def readFraction? : List Char -> Option (Nat × List Char)
  | '.' :: digits => readNanos? digits
  | rest => some (0, rest)

/-- A date-time with an offset in the internet form, as universal time.  Every number has
its full width, and the day and the time are separated by a `T` or one space. -/
def readInternet? (s : List Char) : Option Timestamp := do
  let (year, s) ← readExactly? 4 s
  let s ← readMark? '-' s
  let (month, s) ← readExactly? 2 s
  let s ← readMark? '-' s
  let (day, s) ← readExactly? 2 s
  let s ←
    match s with
    | c :: rest => if c == 'T' || c == 't' || c == ' ' then some rest else none
    | [] => none
  let (hour, s) ← readExactly? 2 s
  let s ← readMark? ':' s
  let (minute, s) ← readExactly? 2 s
  let s ← readMark? ':' s
  let (second, s) ← readExactly? 2 s
  let (nano, s) ← readFraction? s
  let (offset, s) ← readOffset? s
  if s.isEmpty then
    let date ← Date.of? year month day
    let shown ← Timestamp.ofClock? date hour minute second nano
    shown.behind? offset
  else
    none

def dayPatterns : List (List Element) :=
  [ [.year, .mark '-', .month, .mark '-', .day],
    [.month, .mark '/', .day, .mark '/', .year],
    [.year, .mark '/', .month, .mark '/', .day],
    [.monthName, .blanks, .day, .mark ',', .blanks, .year] ]

def dateTimePatterns : List (List Element) :=
  let isoDay : List Element := [.year, .mark '-', .month, .mark '-', .day]
  let minutes : List Element := [.hour, .mark ':', .minute]
  let seconds : List Element := minutes ++ [.mark ':', .second]
  [ isoDay ++ [.blanks] ++ seconds,
    isoDay ++ [.mark 'T'] ++ seconds,
    isoDay ++ [.blanks] ++ minutes,
    isoDay ++ [.mark 'T'] ++ minutes,
    [.month, .mark '/', .day, .mark '/', .year, .blanks] ++ minutes ]

def readEntered? (s : List Char) : Option Timestamp :=
  (readInternet? s).or <|
    (dateTimePatterns.findSome? fun pattern =>
      (readWhole? pattern s).bind Parts.timestamp?).or <|
    dayPatterns.findSome? fun pattern =>
      ((readWhole? pattern s).bind Parts.date?).map Timestamp.midnight

def exactPattern : List Element :=
  [.year, .mark '-', .month, .mark '-', .day, .mark 'T', .hour, .mark ':', .minute,
    .mark ':', .second, .fraction]

def readExact? (s : List Char) : Option Timestamp :=
  (readWhole? exactPattern s).bind Parts.timestamp?

end Time
end Audience
