/-!
# Positions in a document

A cursor is a place in a text: what lies behind it, and in which line and column it stands.
-/

namespace Audience
namespace Yaml

structure Cursor where
  rest : List Char
  index : Nat := 0
  line : Nat := 0
  column : Nat := 0

def isSpace (c : Char) : Bool :=
  c == ' ' || c == '\t'

def isBreak (c : Char) : Bool :=
  c == '\n' || c == '\r' || c == '\u0085' || c == '\u2028' || c == '\u2029'

def isAllowed (c : Char) : Bool :=
  let n := c.toNat
  n == 9 || n == 10 || n == 13 || (0x20 <= n && n <= 0x7E) || n == 0x85 ||
    (0xA0 <= n && n <= 0xD7FF) || (0xE000 <= n && n <= 0xFFFD) || 0x10000 <= n

def isWordChar (c : Char) : Bool :=
  c.isAlphanum || c == '_' || c == '-'

def endsWord : List Char -> Bool
  | [] => true
  | c :: _ => isSpace c || isBreak c

namespace Cursor

def next (c : Cursor) : Cursor :=
  { c with rest := c.rest.drop 1, index := c.index + 1, column := c.column + 1 }

def skip (c : Cursor) (count : Nat) : Cursor :=
  { c with rest := c.rest.drop count, index := c.index + count, column := c.column + count }

def takeWhile (c : Cursor) (accepts : Char -> Bool) : List Char × Cursor :=
  let taken := c.rest.takeWhile fun x => accepts x && !isBreak x
  (taken, c.skip taken.length)

def sees (c : Cursor) (accepts : Char -> Bool) : Bool :=
  match c.rest with
  | x :: _ => accepts x
  | [] => false

def atLineEnd (c : Cursor) : Bool :=
  match c.rest with
  | x :: _ => isBreak x
  | [] => true

/-- A line end as it is kept in a value, and the beginning of the next line. -/
def newline (c : Cursor) : List Char × Cursor :=
  let after (count : Nat) : Cursor :=
    { rest := c.rest.drop count, index := c.index + count, line := c.line + 1, column := 0 }
  match c.rest with
  | '\r' :: '\n' :: _ => (['\n'], after 2)
  | x :: _ =>
      if x == '\u2028' || x == '\u2029' then ([x], after 1)
      else if isBreak x then (['\n'], after 1)
      else ([], c)
  | [] => ([], c)

def atDocumentMark (c : Cursor) : Bool :=
  c.column == 0 &&
    match c.rest with
    | '-' :: '-' :: '-' :: rest => endsWord rest
    | '.' :: '.' :: '.' :: rest => endsWord rest
    | _ => false

def skipComment (c : Cursor) : Cursor :=
  if c.sees (· == '#') then (c.takeWhile fun _ => true).2 else c

end Cursor
end Yaml
end Audience
