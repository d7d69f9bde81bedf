import Audience.Number.Shortest

/-!
# JSON values

A value as it was written: whole numbers are kept apart from other numbers, fields keep
their order and may be repeated.  What was written correctly but has no value, a number out
of range or a text with half a character, is kept as well, since it does no harm where
nobody looks at it.
-/

namespace Audience

inductive Json where
  | null
  | bool (b : Bool)
  | integer (n : Int)
  | float (x : Float)
  | text (s : String)
  | list (items : List Json)
  /-- Fields with their names; a name may itself be without a value. -/
  | object (fields : List (Option String × Json))
  /-- A number out of range, or a text with half a character. -/
  | unreadable
  deriving Inhabited

namespace Json

def ofFields (fields : List (String × Json)) : Json :=
  .object (fields.map fun (name, value) => (some name, value))

def field? (name : String) : Json -> Option Json
  | object fields =>
      ((fields.filter fun field => field.1 == some name).getLast?).map Prod.snd
  | _ => none

/-- A list of fields with one field set: in its place if it is there, at the end if not. -/
def setField (name : String) (value : Json) :
    List (Option String × Json) -> List (Option String × Json)
  | [] => [(some name, value)]
  | (known, old) :: rest =>
      if known == some name then (known, value) :: rest
      else (known, old) :: setField name value rest

/-!
# Writing
-/

def hexText (n : Nat) : List Char :=
  let digits := Nat.toDigits 16 n
  List.replicate (4 - digits.length) '0' ++ digits

/-- A character inside a written text.  Control characters and line separators are
escaped. -/
def writtenChar (c : Char) : List Char :=
  let n := c.toNat
  if c == '"' then ['\\', '"']
  else if c == '\\' then ['\\', '\\']
  else if n < 0x20 || n == 0x7F || n == 0x85 || n == 0x2028 || n == 0x2029 then
    '\\' :: 'u' :: hexText n
  else [c]

def writtenText (s : String) : String :=
  "\"" ++ String.ofList (s.toList.flatMap writtenChar) ++ "\""

def separated (parts : List String) : String :=
  String.intercalate "," parts

mutual

def written : Json -> String
  | null => "null"
  | bool b => if b then "true" else "false"
  | integer n => toString n
  | float x => Number.floatText x
  | text s => writtenText s
  | list items => "[" ++ separated (writtenItems items) ++ "]"
  | object fields => "\x7b" ++ separated (writtenFields fields) ++ "\x7d"
  | unreadable => "null"

def writtenItems : List Json -> List String
  | [] => []
  | item :: rest => written item :: writtenItems rest

def writtenFields : List (Option String × Json) -> List String
  | [] => []
  | (name, value) :: rest =>
      (writtenText (name.getD "") ++ ":" ++ written value) :: writtenFields rest

end

end Json
end Audience
