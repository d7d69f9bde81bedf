import Audience.Number.Binary64
import Audience.Text.Integer

/-!
# Reading floating-point numbers

A number is written as digits with an optional point and an optional exponent, or by one
of three names.  It is read as the nearest number.
-/

namespace Audience
namespace Number

open Text

def namedValue? (s : List Char) : Option Float :=
  let name := String.ofList (s.map Char.toLower)
  if name == "inf" || name == "infinity" then some infinity
  else if name == "nan" then some notANumber
  else none

def readExponent? : List Char -> Option Int
  | '-' :: digits => (natural? digits).map fun n => -(n : Int)
  | '+' :: digits => (natural? digits).map fun n => (n : Int)
  | digits => (natural? digits).map fun n => (n : Int)

/-- A number without sign: digits before or behind a point, then perhaps an exponent. -/
def readUnsigned? (s : List Char) : Option Float :=
  let whole := s.takeWhile Char.isDigit
  let rest := s.drop whole.length
  let (fraction, rest) :=
    match rest with
    | '.' :: rest =>
        let digits := rest.takeWhile Char.isDigit
        (digits, rest.drop digits.length)
    | rest => ([], rest)
  (natural? (whole ++ fraction)).bind fun digits =>
    let places : Int := fraction.length
    match rest with
    | [] => some (ofDecimal digits (-places))
    | c :: exponent =>
        if c == 'e' || c == 'E' then
          (readExponent? exponent).map fun e => ofDecimal digits (e - places)
        else
          none

def readFloat? (s : List Char) : Option Float :=
  let read (digits : List Char) : Option Float :=
    (readUnsigned? digits).or (namedValue? digits)
  match s with
  | '-' :: digits => (read digits).map fun x => -x
  | '+' :: digits => read digits
  | digits => read digits

end Number
end Audience
