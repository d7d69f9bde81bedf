import Audience.Text.Utf8

/-!
# Base 64

Three bytes are written as four characters; one or two bytes at the end are filled up with
equals signs.
-/

namespace Audience
namespace Http

open Text

def base64Digit (n : Nat) : Char :=
  if n < 26 then Char.ofNat (0x41 + n)
  else if n < 52 then Char.ofNat (0x61 + (n - 26))
  else if n < 62 then Char.ofNat (0x30 + (n - 52))
  else if n == 62 then '+'
  else '/'

def base64 : List UInt8 -> List Char
  | a :: b :: c :: rest =>
      let n := (a.toNat * 256 + b.toNat) * 256 + c.toNat
      base64Digit (n / 262144) :: base64Digit (n / 4096 % 64) :: base64Digit (n / 64 % 64) ::
        base64Digit (n % 64) :: base64 rest
  | [a, b] =>
      let n := a.toNat * 256 + b.toNat
      [base64Digit (n / 1024), base64Digit (n / 16 % 64), base64Digit (n % 16 * 4), '=']
  | [a] => [base64Digit (a.toNat / 4), base64Digit (a.toNat % 4 * 16), '=', '=']
  | [] => []

def basicAuthorization (username password : String) : String :=
  "Basic " ++ String.ofList (base64 (bytesOf (username.toList ++ ':' :: password.toList)))

end Http
end Audience
