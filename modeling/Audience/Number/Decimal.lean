import Audience.Text.Integer

/-!
# Decimal amounts

Amounts of money are whole numbers of at most 96 bits, counted in units of a power of
ten, and keep the number of decimals they were written with.  A sum that needs more than
96 bits gives up decimals, rounding half to even; when there are none left to give up it
has no value.

## Main definitions

- `Decimal.add?`: the sum of two amounts;
- `Decimal.sum?`: the sum of a list, from the left;
- `Quantity.le`, `Quantity.lt`: comparison as numbers, whatever the decimals;
- `Decimal.read?`, `Decimal.text`: reading and writing.
-/

namespace Audience

/-!
# Units and rounding

The units in which binary and decimal numbers are counted.  A quotient of natural numbers
is rounded to the nearest whole number; of two equally near ones the even one is taken.
-/

namespace Number

def twoTo (exponent : Nat) : Nat :=
  Nat.pow 2 exponent

def tenTo (exponent : Nat) : Nat :=
  Nat.pow 10 exponent

theorem tenTo_pos (exponent : Nat) : 0 < tenTo exponent :=
  Nat.pow_pos (by decide)

def roundHalfEven (numerator denominator : Nat) : Nat :=
  let quotient := numerator / denominator
  let twice := 2 * (numerator % denominator)
  if twice < denominator then quotient
  else if denominator < twice then quotient + 1
  else quotient + quotient % 2

end Number

/-!
# Amounts
-/

structure Quantity where
  units : Int
  scale : Nat
  deriving DecidableEq, Repr

namespace Quantity

def ofInt (n : Int) : Quantity :=
  ⟨n, 0⟩

def lt (p q : Quantity) : Bool :=
  p.units * Number.tenTo q.scale < q.units * Number.tenTo p.scale

def le (p q : Quantity) : Bool :=
  p.units * Number.tenTo q.scale <= q.units * Number.tenTo p.scale

end Quantity

def Decimal.limit : Nat := Number.twoTo 96

def Decimal.maxScale : Nat := 28

/-- The amount `units / 10 ^ scale`. -/
structure Decimal where
  units : Int
  scale : Nat
  units_lt : units.natAbs < Decimal.limit
  scale_le : scale <= Decimal.maxScale
  deriving DecidableEq

namespace Decimal

open Number

def of? (units : Int) (scale : Nat) : Option Decimal :=
  if h : units.natAbs < limit ∧ scale <= maxScale then some ⟨units, scale, h.1, h.2⟩ else none

def zero : Decimal :=
  ⟨0, 0, by decide, by decide⟩

def quantity (d : Decimal) : Quantity :=
  ⟨d.units, d.scale⟩

def unitsRounded (units : Int) (places : Nat) : Int :=
  let magnitude : Int := roundHalfEven units.natAbs (tenTo places)
  if units < 0 then -magnitude else magnitude

/-- The amount `units / 10 ^ scale` with as many of its decimals as fit. -/
def fit? (units : Int) (scale : Nat) : Option Decimal :=
  (List.range (scale + 1)).findSome? fun dropped =>
    of? (unitsRounded units dropped) (scale - dropped)

def unitsAt (d : Decimal) (scale : Nat) : Int :=
  d.units * tenTo (scale - d.scale)

/-- The sum of two amounts, with the decimals of the one that has more.  Zero adds
nothing, not even decimals. -/
def add? (d e : Decimal) : Option Decimal :=
  if d.units == 0 then some e
  else if e.units == 0 then some d
  else
    let scale := max d.scale e.scale
    fit? (d.unitsAt scale + e.unitsAt scale) scale

def sumFrom? : Decimal -> List Decimal -> Option Decimal
  | total, [] => some total
  | total, d :: rest =>
      match add? total d with
      | some total => sumFrom? total rest
      | none => none

def sum? (ds : List Decimal) : Option Decimal :=
  sumFrom? zero ds

/-!
# Writing
-/

def text (d : Decimal) : String :=
  let magnitude := d.units.natAbs
  let sign := if d.units < 0 then "-" else ""
  if d.scale == 0 then
    sign ++ toString magnitude
  else
    sign ++ toString (magnitude / tenTo d.scale) ++ "." ++
      Text.padded d.scale (magnitude % tenTo d.scale)

/-!
# Reading

Digits are collected as long as they fit.  The first digit that does not fit, or that
comes after the last possible decimal, rounds the amount half up and ends the reading;
before the point it makes the amount unreadable.
-/

structure Collected where
  units : Nat := 0
  scale : Nat := 0
  pastPoint : Bool := false
  anyDigit : Bool := false

/-- The collected amount rounded by the first character that is not collected. -/
def Collected.rounded (c : Collected) (next : Char) : Option (Nat × Nat) :=
  let digit? : Option Nat :=
    if next == '_' || next == '.' then some 0 else Text.digit? next
  match digit? with
  | none => none
  | some digit =>
      if digit < 5 then some (c.units, c.scale)
      else if c.units + 1 < limit then some (c.units + 1, c.scale)
      else if c.scale == 0 then none
      else some ((c.units + 5) / 10, c.scale - 1)

def collect : Collected -> List Char -> Option (Nat × Nat)
  | c, [] => if c.anyDigit then some (c.units, c.scale) else none
  | c, next :: rest =>
      if c.pastPoint && maxScale <= c.scale then
        c.rounded next
      else if next == '.' && !c.pastPoint then
        collect { c with pastPoint := true } rest
      else if next == '_' && c.anyDigit then
        collect c rest
      else
        match Text.digit? next with
        | none => none
        | some digit =>
            let units := 10 * c.units + digit
            if limit <= units then
              if c.pastPoint then c.rounded next else none
            else
              collect
                { units := units
                  scale := if c.pastPoint then c.scale + 1 else c.scale
                  pastPoint := c.pastPoint
                  anyDigit := true }
                rest

/-- An amount written without an exponent: a sign, then digits with underscores between
them and a point among them. -/
def readPlain? (s : List Char) : Option Decimal :=
  let (negative, digits) :=
    match s with
    | '-' :: rest => (true, rest)
    | '+' :: rest => (false, rest)
    | rest => (false, rest)
  (collect {} digits).bind fun (units, scale) =>
    of? (if negative then -(units : Int) else units) scale

def normalized (d : Decimal) : Decimal :=
  if d.units == 0 then zero
  else
    ((List.range d.scale).reverse.findSome? fun i =>
      let dropped := i + 1
      if d.units % tenTo dropped == 0 then of? (d.units / tenTo dropped) (d.scale - dropped)
      else none).getD d

/-- The exponent part of an amount: a sign and a number of at most 28. -/
def readExponent? (s : List Char) : Option Int :=
  let value? : Option Int :=
    match s with
    | '-' :: digits => (Text.natural? digits).map fun n => -(n : Int)
    | '+' :: digits => (Text.natural? digits).map fun n => (n : Int)
    | digits => (Text.natural? digits).map fun n => (n : Int)
  value?.filter fun n => n.natAbs <= maxScale

/-- The amount with its point moved: to the left, or to the right through its own decimals,
the units stay; further to the right zeros are added, and no decimals are kept. -/
def shifted? (d : Decimal) (exponent : Int) : Option Decimal :=
  let scale : Int := (d.scale : Int) - exponent
  if 0 <= scale then of? d.units scale.toNat
  else if d.units == 0 then some zero
  else (fit? (d.units * tenTo exponent.toNat) d.scale).map normalized

def cutExponent? (s : List Char) : Option (List Char × List Char) :=
  let mantissa := s.takeWhile fun c => c != 'e' && c != 'E'
  match s.drop mantissa.length with
  | _ :: exponent => some (mantissa, exponent)
  | [] => none

def read? (s : List Char) : Option Decimal :=
  match cutExponent? s with
  | none => readPlain? s
  | some (mantissa, exponent) =>
      match readPlain? mantissa, readExponent? exponent with
      | some d, some e => d.shifted? e
      | _, _ => none

end Decimal
end Audience
