import Audience.Text.Utf8

/-!
# Form encoding

The characters of `application/x-www-form-urlencoded`: letters, digits and four marks
stand for themselves, a blank is written as a plus sign, and every other byte as a
percent sign with two hexadecimal digits.  Reading is lenient: a percent sign without
two hexadecimal digits stands for itself.
-/

namespace Audience
namespace Form

open Text

def hexDigit (n : Nat) : Char :=
  Char.ofNat (if n < 10 then 0x30 + n else 0x37 + n)

def hexValue? (b : UInt8) : Option Nat :=
  let n := b.toNat
  if 0x30 <= n && n <= 0x39 then some (n - 0x30)
  else if 0x41 <= n && n <= 0x46 then some (n - 0x37)
  else if 0x61 <= n && n <= 0x66 then some (n - 0x57)
  else none

/-- The bytes written as themselves: letters, digits, and the marks `*`, `-`, `.`, `_`. -/
def isPlain (b : UInt8) : Bool :=
  let n := b.toNat
  (0x30 <= n && n <= 0x39) || (0x41 <= n && n <= 0x5A) || (0x61 <= n && n <= 0x7A) ||
    n == 0x2A || n == 0x2D || n == 0x2E || n == 0x5F

/-- A byte as a percent sign and two hexadecimal digits. -/
def escapeByte (b : UInt8) : List Char :=
  ['%', hexDigit (b.toNat / 16), hexDigit (b.toNat % 16)]

def encodeByte (b : UInt8) : List Char :=
  if isPlain b then [Char.ofNat b.toNat]
  else if b == 0x20 then ['+']
  else escapeByte b

def encode (s : List Char) : List Char :=
  (bytesOf s).flatMap encodeByte

def escaped? : List UInt8 -> Option UInt8
  | high :: low :: _ =>
      match hexValue? high, hexValue? low with
      | some h, some l => some (UInt8.ofNat (16 * h + l))
      | _, _ => none
  | _ => none

def unescape : List UInt8 -> List UInt8
  | [] => []
  | b :: rest =>
      if b == 0x25 then
        match escaped? rest with
        | some value => value :: unescape (rest.drop 2)
        | none => b :: unescape rest
      else
        (if b == 0x2B then 0x20 else b) :: unescape rest
termination_by bytes => bytes.length
decreasing_by
  all_goals
    simp only [List.length_cons, List.length_drop]
    omega

def decode (s : List Char) : List Char :=
  textOf (unescape (bytesOf s))

end Form
end Audience
