/-!
# Integers in decimal

Whole numbers are read from ASCII digits only, with an optional sign, and must lie
in the range of signed 64-bit integers.
-/

namespace Audience
namespace Text

def digit? (c : Char) : Option Nat :=
  if c.isDigit then some (c.toNat - '0'.toNat) else none

/-- The value of a run of digits read after the digits worth `start`. -/
def digitsFrom? : Nat -> List Char -> Option Nat
  | start, [] => some start
  | start, c :: rest =>
      match digit? c with
      | some d => digitsFrom? (10 * start + d) rest
      | none => none

def natural? : List Char -> Option Nat
  | [] => none
  | c :: rest => digitsFrom? 0 (c :: rest)

def inInt64 (n : Int) : Bool :=
  -9223372036854775808 <= n && n <= 9223372036854775807

def int64? (s : List Char) : Option Int :=
  let value : Option Int :=
    match s with
    | '-' :: digits => (natural? digits).map fun n => -(n : Int)
    | '+' :: digits => (natural? digits).map fun n => (n : Int)
    | digits => (natural? digits).map fun n => (n : Int)
  value.filter inInt64

/-- The decimal digits of a number, with zeros in front up to a least width. -/
def padded (width n : Nat) : String :=
  let digits := toString n
  String.ofList (List.replicate (width - digits.length) '0') ++ digits

end Text
end Audience
