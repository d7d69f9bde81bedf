import Audience.Text.Printable

/-!
# Quoted texts

A text in quotation marks in which every character can be seen: marks, backslashes and line
ends are written with a backslash, characters without a shape of their own by number.
-/

namespace Audience
namespace Text

def numbered (c : Char) : List Char :=
  ['\\', 'u', '\x7b'] ++ Nat.toDigits 16 c.toNat ++ ['\x7d']

def quotedChar (c : Char) : List Char :=
  match c.toNat with
  | 0 => ['\\', '0']
  | 9 => ['\\', 't']
  | 10 => ['\\', 'n']
  | 13 => ['\\', 'r']
  | _ =>
      if c == '"' || c == '\\' then ['\\', c]
      else if isPrintable c then [c]
      else numbered c

def quoted (s : String) : String :=
  "\"" ++ String.ofList (s.toList.flatMap quotedChar) ++ "\""

end Text
end Audience
