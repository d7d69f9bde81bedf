import Audience.Number.Binary64

/-!
# The shortest decimal of a number

A number is written with the fewest digits that are nearer to it than to any other
number; of several such decimals the nearest is taken, and of two equally near ones the
greater.  The digits are written out with a point, never with an exponent.
-/

namespace Audience
namespace Number

structure ShortDecimal where
  digits : Nat
  exponent : Int
  deriving DecidableEq, Repr

/-- A value, the bounds of the interval of values rounded to it, and one step of a decimal
grid, all four counted in one unit.  The bounds belong to the interval if `closed`. -/
structure Scaled where
  value : Nat
  low : Nat
  high : Nat
  step : Nat
  closed : Bool

def scaledTo (m : Magnitude) (exponent : Int) : Scaled :=
  let four := 4 * m.units
  let below := if m.units == twoTo 52 && leastExponent < m.exponent then 1 else 2
  let binary : Int := m.exponent - 2
  let up := twoTo binary.toNat * tenTo (-exponent).toNat
  let down := twoTo (-binary).toNat * tenTo exponent.toNat
  { value := four * up
    low := (four - below) * up
    high := (four + 2) * up
    step := down
    closed := m.units % 2 == 0 }

def Scaled.holds (s : Scaled) (count : Nat) : Bool :=
  let point := count * s.step
  if s.closed then s.low <= point && point <= s.high else s.low < point && point < s.high

def Scaled.nearest? (s : Scaled) : Option Nat :=
  let count := s.value / s.step
  let downwards := 0 < count && s.holds count
  let upwards := s.holds (count + 1)
  if downwards && upwards then
    some (if 2 * (s.value % s.step) < s.step then count else count + 1)
  else if downwards then some count
  else if upwards then some (count + 1)
  else none

/-- The shortest decimal of a magnitude other than zero, on one of the grids from
`10 ^ exponent` down, `grids` many. -/
def shortestFrom (m : Magnitude) : Nat -> Int -> Option ShortDecimal
  | 0, _ => none
  | grids + 1, exponent =>
      match (scaledTo m exponent).nearest? with
      | some digits => some ⟨digits, exponent⟩
      | none => shortestFrom m grids (exponent - 1)

def decimalBound (m : Magnitude) : Int :=
  ((Nat.log2 m.units : Int) + 1 + m.exponent) * 30103 / 100000 + 1

def shortest (m : Magnitude) : ShortDecimal :=
  if m.units == 0 then ⟨0, 0⟩
  else (shortestFrom m 20 (decimalBound m)).getD ⟨0, 0⟩

def ShortDecimal.text (d : ShortDecimal) : String :=
  if 0 <= d.exponent then
    toString (d.digits * tenTo d.exponent.toNat)
  else
    let places := (-d.exponent).toNat
    let digits := toString d.digits
    let all :=
      String.ofList (List.replicate (places + 1 - digits.length) '0') ++ digits
    let whole := all.length - places
    String.ofList (all.toList.take whole) ++ "." ++ String.ofList (all.toList.drop whole)

def floatText (x : Float) : String :=
  match magnitude? x with
  | some m => (if isNegative x then "-" else "") ++ (shortest m).text
  | none =>
      if x.isNaN then "NaN" else if isNegative x then "-inf" else "inf"

end Number
end Audience
