/-!
# Pieces of a statement

A statement is a sequence of pieces: its own words, names in double quotes, texts in single
quotes, and fragments put in as they are.  Only names and texts hold what users wrote, and
both are quoted so that they end where they should.

A text with a quote, a backslash or a control character is written with backslash escapes
and an `E` in front; in a name a double quote is doubled.
-/

namespace Audience
namespace Statement

inductive Piece where
  | code (words : String)
  /-- A name of a table, a column or an alias. -/
  | name (name : String)
  | text (text : String)
  /-- A fragment put in as it is. -/
  | verbatim (fragment : String)
  deriving DecidableEq, Repr

def doubleQuote : Char := '\u0022'

def singleQuote : Char := '\u0027'

def nameChar (c : Char) : List Char :=
  if c == doubleQuote then [doubleQuote, doubleQuote] else [c]

def quotedName (s : List Char) : List Char :=
  doubleQuote :: s.flatMap nameChar ++ [doubleQuote]

def isControl (c : Char) : Bool :=
  c.toNat < 0x20 || c.toNat == 0x7F

/-- A text needs escapes when it has a quote, a backslash or a control character. -/
def needsEscapes (s : List Char) : Bool :=
  s.any fun c => c == singleQuote || c == '\\' || isControl c

def octal (n : Nat) : List Char :=
  [Char.ofNat (0x30 + n / 64), Char.ofNat (0x30 + n / 8 % 8), Char.ofNat (0x30 + n % 8)]

def escapedChar (c : Char) : List Char :=
  if c == singleQuote then ['\\', singleQuote]
  else if c == '\\' then ['\\', '\\']
  else if isControl c then
    '\\' ::
      match c.toNat with
      | 0 => ['0']
      | 8 => ['b']
      | 9 => ['t']
      | 10 => ['n']
      | 12 => ['f']
      | 13 => ['r']
      | n => octal n
  else [c]

def quotedText (s : List Char) : List Char :=
  if needsEscapes s then
    'E' :: singleQuote :: s.flatMap escapedChar ++ [singleQuote]
  else
    singleQuote :: s ++ [singleQuote]

def Piece.chars : Piece -> List Char
  | code words => words.toList
  | name s => quotedName s.toList
  | text s => quotedText s.toList
  | verbatim fragment => fragment.toList

def chars (pieces : List Piece) : List Char :=
  pieces.flatMap Piece.chars

def text (pieces : List Piece) : String :=
  String.ofList (chars pieces)

def joined (words : String) (parts : List (List Piece)) : List Piece :=
  List.intercalate [.code words] parts

end Statement
end Audience
