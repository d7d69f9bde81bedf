import Audience.Error
import Audience.Number.Decimal
import Audience.Number.FloatReading
import Audience.Text.Blank
import Audience.Time.Reading

/-!
# Values as users enter them

The values of filters, read without the blanks around them.  An error shows the value as it
was entered.
-/

namespace Audience
namespace Entry

open Text Time

def date (filter raw : String) : Except RequestError Timestamp :=
  match readEntered? (trim raw.toList) with
  | some time => .ok time
  | none => .error (.invalidDate filter raw)

def count (filter raw : String) : Except RequestError Int :=
  match int64? (trim raw.toList) with
  | some n => .ok n
  | none => .error (.invalidNumber filter raw)

def amount (filter raw : String) : Except RequestError Decimal :=
  match Decimal.read? (trim raw.toList) with
  | some d => .ok d
  | none => .error (.invalidNumber filter raw)

/-- A radius in miles, which must be finite and positive. -/
def distance (raw : String) : Except RequestError Float :=
  match Number.readFloat? (trim raw.toList) with
  | some miles =>
      if miles.isFinite && 0.0 < miles then .ok miles else .error (.invalidDistance raw)
  | none => .error (.invalidDistance raw)

/-- The ids in a list with commas, in which blank places are skipped. -/
def idsOf : List (List Char) -> Except RequestError (List Int)
  | [] => .ok []
  | part :: parts =>
      let word := trim part
      if word.isEmpty then idsOf parts
      else
        match int64? word with
        | none => .error (.invalidUserId (String.ofList word))
        | some id => (idsOf parts).map (id :: ·)

def userIds (raw : String) : Except RequestError (List Int) :=
  match idsOf (splitOn ',' raw.toList) with
  | .ok [] => .error (.invalidUserId raw)
  | outcome => outcome

end Entry
end Audience
