import Audience.Number.Decimal

/-!
# Binary floating point

The bits of a 64-bit floating-point number as an exact value, a whole number times a
power of two, and the nearest such number to an exact quotient or to a decimal.
-/

namespace Audience
namespace Number

def leastExponent : Int := -1074

def infinityBits : Nat := 2047 * twoTo 52

/-- A finite magnitude as `units * 2 ^ exponent`. -/
structure Magnitude where
  units : Nat
  exponent : Int
  deriving DecidableEq, Repr

/-- The exact magnitude of a number, unless it is infinite or not a number. -/
def magnitude? (x : Float) : Option Magnitude :=
  let bits := x.toBits.toNat
  let exponent := bits / twoTo 52 % twoTo 11
  let fraction := bits % twoTo 52
  if exponent == 2047 then none
  else if exponent == 0 then some ⟨fraction, leastExponent⟩
  else some ⟨fraction + twoTo 52, leastExponent + (exponent - 1 : Nat)⟩

/-- Whether the sign of a number is negative; this holds of one of the two zeros. -/
def isNegative (x : Float) : Bool :=
  x.toBits.toNat / twoTo 63 == 1

/-- The number with positive sign, the given units and their exponent, where the units have
at most 53 bits and all of them unless the exponent is least; a carry into bit 54 is
allowed. -/
def assemble (units : Nat) (exponent : Int) : Float :=
  let shifted : Nat := (exponent - leastExponent).toNat
  let bits :=
    if units < twoTo 52 then units else (shifted + 1) * twoTo 52 + (units - twoTo 52)
  if infinityBits <= bits then Float.ofBits (UInt64.ofNat infinityBits)
  else Float.ofBits (UInt64.ofNat bits)

def unitsOf (numerator denominator : Nat) (exponent : Int) : Nat :=
  if 0 <= exponent then roundHalfEven numerator (denominator * twoTo exponent.toNat)
  else roundHalfEven (numerator * twoTo (-exponent).toNat) denominator

def reaches (numerator denominator : Nat) (exponent : Int) : Bool :=
  if 0 <= exponent then denominator * twoTo exponent.toNat <= numerator
  else denominator <= numerator * twoTo (-exponent).toNat

/-- The number nearest to a quotient of natural numbers, a half to even. -/
def ofQuotient (numerator denominator : Nat) : Float :=
  if numerator == 0 then Float.ofBits 0
  else
    let estimate : Int := (Nat.log2 numerator : Int) - Nat.log2 denominator
    let top := if reaches numerator denominator estimate then estimate else estimate - 1
    let exponent := max (top - 52) leastExponent
    assemble (unitsOf numerator denominator exponent) exponent

def ofDecimal (digits : Nat) (exponent : Int) : Float :=
  let places : Int := (toString digits).length
  if digits == 0 || places + exponent < -330 then Float.ofBits 0
  else if 320 < places + exponent then Float.ofBits (UInt64.ofNat infinityBits)
  else if 0 <= exponent then ofQuotient (digits * tenTo exponent.toNat) 1
  else ofQuotient digits (tenTo (-exponent).toNat)

def infinity : Float :=
  Float.ofBits (UInt64.ofNat infinityBits)

def notANumber : Float :=
  Float.ofBits (UInt64.ofNat (infinityBits + twoTo 51))

end Number
end Audience
