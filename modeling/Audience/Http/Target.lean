import Audience.Form

/-!
# Request targets

The part of a web address behind the host: a path and perhaps a query.  The path is taken
apart at slashes and backslashes, its `.` and `..` segments are resolved, and characters
that may not stand in an address are written as percent escapes.  A fragment is dropped.
-/

namespace Audience
namespace Http

open Text

structure Target where
  path : List Char
  query : Option (List Char)
  deriving DecidableEq, Repr

def isForbidden (c : Char) : Bool :=
  let n := c.toNat
  n <= 0x20 || 0x7F <= n || c == '"' || c == '#' || c == '<' || c == '>'

def isForbiddenInPath (c : Char) : Bool :=
  isForbidden c || c == '?' || c == '^' || c == '\u0060' || c == '\x7b' || c == '\x7d'

def isForbiddenInQuery (c : Char) : Bool :=
  isForbidden c || c == '\u0027'

def escaped (isForbidden : Char -> Bool) (s : List Char) : List Char :=
  s.flatMap fun c =>
    if isForbidden c then (bytesOf [c]).flatMap Form.escapeByte else [c]

/-- A segment with its escaped points read and its letters in lower case. -/
def plainSegment : List Char -> List Char
  | '%' :: '2' :: c :: rest =>
      if c == 'e' || c == 'E' then '.' :: plainSegment rest
      else '%' :: '2' :: c :: plainSegment rest
  | c :: rest => c :: plainSegment rest
  | [] => []

/-- The segments of a path with those that mean "here" and "one up" resolved. -/
def resolved : List (List Char) -> List (List Char) -> List (List Char)
  | before, [] => before
  | before, [last] =>
      if plainSegment last == ['.', '.'] then before.dropLast ++ [[]]
      else if plainSegment last == ['.'] then before ++ [[]]
      else before ++ [last]
  | before, segment :: rest =>
      if plainSegment segment == ['.', '.'] then resolved before.dropLast rest
      else if plainSegment segment == ['.'] then resolved before rest
      else resolved (before ++ [segment]) rest

def pathOf (s : List Char) : List Char :=
  let segments :=
    match splitWhere (fun c => c == '/' || c == '\\') s with
    | _ :: segments => if segments.isEmpty then [[]] else segments
    | [] => [[]]
  '/' :: List.intercalate ['/'] ((resolved [] segments).map (escaped isForbiddenInPath))

def cutAtMark (mark : Char) (s : List Char) : List Char × Option (List Char) :=
  match cutAt? [mark] s with
  | some (before, after) => (before, some after)
  | none => (s, none)

/-- A text without line ends and tabs, and without blanks and control characters at its
end. -/
def cleaned (s : List Char) : List Char :=
  ((s.filter fun c => c != '\t' && c != '\n' && c != '\r').reverse.dropWhile
    fun c => c.toNat <= 0x20).reverse

/-- The target written behind the host of an address; none if the text goes on with the
host. -/
def Target.ofText? (s : String) : Option Target :=
  let (s, _) := cutAtMark '#' (cleaned s.toList)
  let (path, query) := cutAtMark '?' s
  match path with
  | [] => some ⟨['/'], query.map (escaped isForbiddenInQuery)⟩
  | c :: _ =>
      if c == '/' || c == '\\' then
        some ⟨pathOf path, query.map (escaped isForbiddenInQuery)⟩
      else
        none

def Target.adding (target : Target) (fields : Form) : Target :=
  let added := fields.toQuery.toList
  match target.query with
  | none => { target with query := some added }
  | some [] => { target with query := some added }
  | some query => { target with query := some (query ++ '&' :: added) }

def Target.text (target : Target) : String :=
  match target.query with
  | none => String.ofList target.path
  | some query => String.ofList (target.path ++ '?' :: query)

end Http
end Audience
