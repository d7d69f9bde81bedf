import Audience.Number.Decimal
import Audience.Text.Blank
import Audience.Time.Timestamp

/-!
# Patterns of dates and times

A pattern lists what a written date or time consists of.  Reading by a pattern is
lenient: blanks may stand before every number, a blank in the pattern matches any number
of blanks, numbers may have fewer digits than usual, and a year with a sign may have more.
-/

namespace Audience
namespace Time

open Text

inductive Element where
  | year
  | month
  | day
  | hour
  | minute
  | second
  /-- A point and digits of the second, or nothing. -/
  | fraction
  /-- The English name of a month, whole or its first three letters, in any case. -/
  | monthName
  /-- Any number of blanks. -/
  | blanks
  /-- This character. -/
  | mark (c : Char)
  deriving DecidableEq, Repr

structure Parts where
  year : Option Int := none
  month : Option Nat := none
  day : Option Nat := none
  hour : Option Nat := none
  minute : Option Nat := none
  second : Nat := 0
  nano : Nat := 0

/-- The number in the first digits of a text, at least one and at most `most` of them. -/
def readNumber? (most : Nat) (s : List Char) : Option (Nat × List Char) :=
  let digits := (s.take most).takeWhile Char.isDigit
  (natural? digits).map fun n => (n, s.drop digits.length)

def readField? (most : Nat) (s : List Char) : Option (Nat × List Char) :=
  readNumber? most (trimStart s)

/-- A year: four digits at most, or any number of digits behind a sign. -/
def readYear? (s : List Char) : Option (Int × List Char) :=
  match trimStart s with
  | '-' :: rest => (readNumber? rest.length rest).map fun (n, rest) => (-(n : Int), rest)
  | '+' :: rest => (readNumber? rest.length rest).map fun (n, rest) => ((n : Int), rest)
  | rest => (readNumber? 4 rest).map fun (n, rest) => ((n : Int), rest)

/-- The digits behind a decimal point as nanoseconds; digits after the ninth are dropped. -/
def readNanos? (s : List Char) : Option (Nat × List Char) :=
  let digits := (s.take 9).takeWhile Char.isDigit
  (natural? digits).map fun n =>
    (n * Number.tenTo (9 - digits.length), s.dropWhile Char.isDigit)

def monthNames : List String :=
  ["january", "february", "march", "april", "may", "june", "july", "august", "september",
    "october", "november", "december"]

def dropName? (name s : List Char) : Option (List Char) :=
  if name.isPrefixOf (s.map Char.toLower) then some (s.drop name.length) else none

def readMonthName? (s : List Char) : Option (Nat × List Char) :=
  (List.range 12).findSome? fun i =>
    let name := (monthNames.getD i "").toList
    (dropName? (name.take 3) s).map fun afterShort =>
      (i + 1, (dropName? name s).getD afterShort)

def Element.read? (parts : Parts) (s : List Char) : Element -> Option (Parts × List Char)
  | .year => (readYear? s).map fun (n, rest) => ({ parts with year := some n }, rest)
  | .month => (readField? 2 s).map fun (n, rest) => ({ parts with month := some n }, rest)
  | .day => (readField? 2 s).map fun (n, rest) => ({ parts with day := some n }, rest)
  | .hour => (readField? 2 s).map fun (n, rest) => ({ parts with hour := some n }, rest)
  | .minute => (readField? 2 s).map fun (n, rest) => ({ parts with minute := some n }, rest)
  | .second => (readField? 2 s).map fun (n, rest) => ({ parts with second := n }, rest)
  | .fraction =>
      match s with
      | '.' :: digits =>
          (readNanos? digits).map fun (n, rest) => ({ parts with nano := n }, rest)
      | _ => some (parts, s)
  | .monthName =>
      (readMonthName? s).map fun (n, rest) => ({ parts with month := some n }, rest)
  | .blanks => some (parts, trimStart s)
  | .mark c =>
      match s with
      | first :: rest => if first == c then some (parts, rest) else none
      | [] => none

def readElements? : List Element -> Parts -> List Char -> Option (Parts × List Char)
  | [], parts, s => some (parts, s)
  | element :: elements, parts, s =>
      match element.read? parts s with
      | some (parts, rest) => readElements? elements parts rest
      | none => none

/-- The numbers in a text that a pattern describes from end to end. -/
def readWhole? (pattern : List Element) (s : List Char) : Option Parts :=
  match readElements? pattern {} s with
  | some (parts, []) => some parts
  | _ => none

def Parts.date? (parts : Parts) : Option Date :=
  match parts.year, parts.month, parts.day with
  | some year, some month, some day => Date.of? year month day
  | _, _, _ => none

/-- The instant that the numbers name; a missing second is second 0. -/
def Parts.timestamp? (parts : Parts) : Option Timestamp :=
  match parts.date?, parts.hour, parts.minute with
  | some date, some hour, some minute =>
      Timestamp.ofClock? date hour minute parts.second parts.nano
  | _, _, _ => none

end Time
end Audience
