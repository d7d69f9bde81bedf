import Audience.Json.Numeral

/-!
# Reading JSON

The text of a value may have blanks around it and nothing else.  A half of a surrogate pair
makes a text unreadable but not the document.
-/

namespace Audience
namespace Json

def skipBlanks (s : List Char) : List Char :=
  s.dropWhile fun c => c == ' ' || c == '\n' || c == '\t' || c == '\r'

def hexDigit? (c : Char) : Option Nat :=
  if c.isDigit then some (c.toNat - 0x30)
  else if 'a' <= c && c <= 'f' then some (c.toNat - 0x57)
  else if 'A' <= c && c <= 'F' then some (c.toNat - 0x37)
  else none

def hexUnit? (a b c d : Char) : Option Nat := do
  return (((← hexDigit? a) * 16 + (← hexDigit? b)) * 16 + (← hexDigit? c)) * 16 + (← hexDigit? d)

def escapedChar? (c : Char) : Option Char :=
  if c == '"' || c == '\\' || c == '/' then some c
  else if c == 'b' then some '\u0008'
  else if c == 'f' then some '\u000C'
  else if c == 'n' then some '\n'
  else if c == 'r' then some '\r'
  else if c == 't' then some '\t'
  else none

def paired? (high low : Nat) : Option Char :=
  if 0xD800 <= high && high < 0xDC00 && 0xDC00 <= low && low < 0xE000 then
    some (Char.ofNat (0x10000 + (high - 0xD800) * 0x400 + (low - 0xDC00)))
  else none

/-- A text up to its closing quotation mark, given the characters before in reverse order
and whether they are all there. -/
def readText? (before : List Char) (complete : Bool) :
    List Char -> Option (Option String × List Char)
  | [] => none
  | '"' :: rest =>
      some (if complete then some (String.ofList before.reverse) else none, rest)
  | '\\' :: 'u' :: a :: b :: c :: d :: '\\' :: 'u' :: e :: f :: g :: h :: rest =>
      match hexUnit? a b c d, hexUnit? e f g h with
      | some high, some low =>
          match paired? high low with
          | some whole => readText? (whole :: before) complete rest
          | none =>
              if 0xD800 <= high && high < 0xE000 then
                readText? before false ('\\' :: 'u' :: e :: f :: g :: h :: rest)
              else
                readText? (Char.ofNat high :: before) complete
                  ('\\' :: 'u' :: e :: f :: g :: h :: rest)
      | _, _ => none
  | '\\' :: 'u' :: a :: b :: c :: d :: rest =>
      match hexUnit? a b c d with
      | some unit =>
          if 0xD800 <= unit && unit < 0xE000 then readText? before false rest
          else readText? (Char.ofNat unit :: before) complete rest
      | none => none
  | '\\' :: c :: rest =>
      match escapedChar? c with
      | some c => readText? (c :: before) complete rest
      | none => none
  | c :: rest => if c.toNat < 0x20 then none else readText? (c :: before) complete rest
termination_by s => s.length

def ofText : Option String -> Json
  | some s => .text s
  | none => .unreadable

def readWord? : List Char -> Option (Json × List Char)
  | 'n' :: 'u' :: 'l' :: 'l' :: rest => some (.null, rest)
  | 't' :: 'r' :: 'u' :: 'e' :: rest => some (.bool true, rest)
  | 'f' :: 'a' :: 'l' :: 's' :: 'e' :: rest => some (.bool false, rest)
  | _ => none

mutual

/-- The value in front of a text, read in a limited number of steps. -/
def readValue? : Nat -> List Char -> Option (Json × List Char)
  | 0, _ => none
  | steps + 1, s =>
      match skipBlanks s with
      | '"' :: rest => (readText? [] true rest).map fun (s, rest) => (ofText s, rest)
      | '[' :: rest =>
          match skipBlanks rest with
          | ']' :: rest => some (.list [], rest)
          | rest => (readItems? steps [] rest).map fun (items, rest) => (.list items, rest)
      | '\x7b' :: rest =>
          match skipBlanks rest with
          | '\x7d' :: rest => some (.object [], rest)
          | rest => (readFields? steps [] rest).map fun (fields, rest) => (.object fields, rest)
      | rest =>
          (readWord? rest).or <|
            (readNumeral? rest).map fun (number, rest) => (number.value, rest)

def readItems? : Nat -> List Json -> List Char -> Option (List Json × List Char)
  | 0, _, _ => none
  | steps + 1, before, s =>
      match readValue? steps s with
      | none => none
      | some (item, rest) =>
          match skipBlanks rest with
          | ',' :: rest => readItems? steps (item :: before) rest
          | ']' :: rest => some ((item :: before).reverse, rest)
          | _ => none

def readFields? :
    Nat -> List (Option String × Json) -> List Char ->
      Option (List (Option String × Json) × List Char)
  | 0, _, _ => none
  | steps + 1, before, s =>
      match skipBlanks s with
      | '"' :: rest =>
          match readText? [] true rest with
          | none => none
          | some (name, rest) =>
              match skipBlanks rest with
              | ':' :: rest =>
                  match readValue? steps rest with
                  | none => none
                  | some (value, rest) =>
                      match skipBlanks rest with
                      | ',' :: rest => readFields? steps ((name, value) :: before) rest
                      | '\x7d' :: rest => some (((name, value) :: before).reverse, rest)
                      | _ => none
              | _ => none
      | _ => none

end

def read? (s : String) : Option Json :=
  let s := s.toList
  match readValue? (2 * s.length + 2) s with
  | some (value, rest) => if (skipBlanks rest).isEmpty then some value else none
  | none => none

end Json
end Audience
