import Audience.Json
import Audience.Number.Binary64
import Audience.Text.Integer

/-!
# Numbers in JSON

A number without point and exponent that fits into 64 bits is whole; any other number is
floating-point.  Of the digits of such a number as many are taken as fit into 64 bits; they
are then multiplied or divided by a power of ten once, so the result may be off by one unit
in the last place.
-/

namespace Audience
namespace Json

open Text

structure Numeral where
  negative : Bool
  whole : List Char
  /-- The digits behind the point; none if there is no point. -/
  fraction : List Char
  /-- The exponent, its sign apart. -/
  exponent : Option (Bool × List Char)

def digitsOf (s : List Char) : List Char × List Char :=
  (s.takeWhile Char.isDigit, s.dropWhile Char.isDigit)

/-- The whole part: one zero, or digits that do not begin with a zero. -/
def readWhole? (s : List Char) : Option (List Char × List Char) :=
  match digitsOf s with
  | ([], _) => none
  | ('0' :: _ :: _, _) => none
  | (digits, rest) => some (digits, rest)

def readFraction? : List Char -> Option (List Char × List Char)
  | '.' :: rest =>
      match digitsOf rest with
      | ([], _) => none
      | (digits, rest) => some (digits, rest)
  | rest => some ([], rest)

def readSigned? : List Char -> Option ((Bool × List Char) × List Char)
  | '-' :: rest =>
      match digitsOf rest with
      | ([], _) => none
      | (digits, rest) => some ((true, digits), rest)
  | '+' :: rest =>
      match digitsOf rest with
      | ([], _) => none
      | (digits, rest) => some ((false, digits), rest)
  | rest =>
      match digitsOf rest with
      | ([], _) => none
      | (digits, rest) => some ((false, digits), rest)

def readExponent? : List Char -> Option (Option (Bool × List Char) × List Char)
  | c :: rest =>
      if c == 'e' || c == 'E' then
        (readSigned? rest).map fun (exponent, rest) => (some exponent, rest)
      else
        some (none, c :: rest)
  | [] => some (none, [])

def readNumeral? (s : List Char) : Option (Numeral × List Char) := do
  let (negative, s) :=
    match s with
    | '-' :: rest => (true, rest)
    | rest => (false, rest)
  let (whole, s) ← readWhole? s
  let (fraction, s) ← readFraction? s
  let (exponent, s) ← readExponent? s
  return (⟨negative, whole, fraction, exponent⟩, s)

/-- Digits taken up while the number fits into 64 bits, and how many were left over. -/
def takeUp : Nat -> List Char -> Nat × Nat
  | taken, [] => (taken, 0)
  | taken, c :: rest =>
      let longer := 10 * taken + (c.toNat - '0'.toNat)
      if longer < Number.twoTo 64 then takeUp longer rest else (taken, rest.length + 1)

def greatestExponent : Nat := 2147483647

def clampedExponent (n : Int) : Int :=
  max (-(greatestExponent : Int) - 1) (min n greatestExponent)

def timesPower? (x : Float) (exponent : Int) : Option Float :=
  if exponent.natAbs <= 308 then
    let power := Number.ofDecimal 1 exponent.natAbs
    if 0 <= exponent then
      let product := x * power
      if product.isInf then none else some product
    else
      some (x / power)
  else if x == 0.0 then some x
  else if 0 <= exponent then none
  else timesPower? (x / Number.ofDecimal 1 308) (exponent + 308)
termination_by exponent.natAbs
decreasing_by omega

def signedFloat (negative : Bool) (x : Option Float) : Json :=
  match x with
  | some x => .float (if negative then -x else x)
  | none => .unreadable

def Numeral.value (n : Numeral) : Json :=
  let (units, dropped) := takeUp 0 n.whole
  let (digits, left) := takeUp units n.fraction
  let places : Int := (dropped : Int) - (n.fraction.length - left : Nat)
  match n.exponent with
  | none =>
      if n.fraction.isEmpty && dropped == 0 then
        if !n.negative then .integer units
        else if units == 0 || Number.twoTo 63 < units then .float (-(Float.ofNat units))
        else .integer (-(units : Int))
      else
        signedFloat n.negative (timesPower? (Float.ofNat digits) places)
  | some (negative, exponent) =>
      match natural? exponent with
      | none => .unreadable
      | some size =>
          if greatestExponent < size then
            signedFloat n.negative (if digits == 0 || negative then some 0.0 else none)
          else
            let exponent := clampedExponent (if negative then places - size else places + size)
            signedFloat n.negative (timesPower? (Float.ofNat digits) exponent)

end Json
end Audience
