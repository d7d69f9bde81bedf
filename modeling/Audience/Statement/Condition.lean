import Audience.Number.Decimal
import Audience.Number.Shortest
import Audience.Statement.Piece
import Audience.Vocabulary

/-!
# Conditions of a statement

Conditions are built from tests on columns, from lookups of rows in other tables, and from
the three connectives.  A connective puts an operand in parentheses unless the operand
binds more tightly or continues the same connective on the left.
-/

namespace Audience
namespace Statement

structure Field where
  table : String
  column : String
  deriving DecidableEq, Repr

inductive Literal where
  | text (s : String)
  | integer (n : Int)
  | float (x : Float)
  | amount (d : Decimal)

inductive Operand where
  | field (field : Field)
  /-- The number one, where only the existence of a row counts. -/
  | one
  | asText (field : Field)
  /-- A column as text, and the empty text where there is no value. -/
  | asTextOrEmpty (field : Field)
  /-- Two columns with a space between them. -/
  | spaced (first second : Field)
  | lower (operand : Operand)
  /-- The number of rows with a value. -/
  | count (field : Field)
  /-- The sum of the values, zero if there are none. -/
  | sumOrZero (field : Field)
  deriving DecidableEq, Repr

inductive Test where
  /-- Two columns are equal. -/
  | same (left right : Field)
  | compare (operand : Operand) (comparison : Comparison) (value : Literal)
  | equals (operand : Operand) (value : Literal)
  | oneOf (operand : Operand) (values : List Literal)
  /-- A column lies between two values or on one of them. -/
  | between (field : Field) (low high : Literal)
  /-- An operand matches a wildcard pattern. -/
  | like (operand : Operand) (pattern : String)

structure Lookup where
  shown : Operand
  table : String
  /-- A second table, joined where two columns are the same. -/
  join : Option (String × Field × Field) := none
  tests : List Test
  /-- Only the first row in the order of this column. -/
  first : Option Field := none

inductive Condition where
  | constant (value : Bool)
  /-- The id is one of a list that is put in as it is. -/
  | restriction (list : String)
  | test (test : Test)
  | exists (lookup : Lookup)
  /-- The only value of a lookup compares with a value. -/
  | figure (lookup : Lookup) (comparison : Comparison) (value : Literal)
  | and (left right : Condition)
  | or (left right : Condition)
  | not (inner : Condition)

/-!
# Written forms
-/

def Field.pieces (field : Field) : List Piece :=
  [.name field.table, .code ".", .name field.column]

def Literal.pieces : Literal -> List Piece
  | text s => [.text s]
  | integer n => [.code (toString n)]
  | float x => [.code (Number.floatText x)]
  | amount d => [.code d.text]

def Operand.pieces : Operand -> List Piece
  | field f => f.pieces
  | one => [.code "1"]
  | asText f => .code "CAST(" :: f.pieces ++ [.code " AS text)"]
  | asTextOrEmpty f => .code "COALESCE(CAST(" :: f.pieces ++ [.code " AS text), '')"]
  | spaced f g => .code "CONCAT(" :: f.pieces ++ .code ", ' ', " :: g.pieces ++ [.code ")"]
  | lower operand => .code "LOWER(" :: operand.pieces ++ [.code ")"]
  | count f => .code "COUNT(" :: f.pieces ++ [.code ")"]
  | sumOrZero f => .code "COALESCE(SUM(" :: f.pieces ++ [.code "), 0)"]

def comparisonSign : Comparison -> String
  | .gt => " > "
  | .gte => " >= "
  | .lte => " <= "

/-- A test.  There is no list without members, so a choice from no values is written as a
test that fails. -/
def Test.pieces : Test -> List Piece
  | same left right => left.pieces ++ .code " = " :: right.pieces
  | compare operand comparison value =>
      operand.pieces ++ .code (comparisonSign comparison) :: value.pieces
  | equals operand value => operand.pieces ++ .code " = " :: value.pieces
  | oneOf _ [] => [.code "1 = 2"]
  | oneOf operand (value :: values) =>
      operand.pieces ++ .code " IN (" ::
        joined ", " ((value :: values).map Literal.pieces) ++ [.code ")"]
  | between field low high =>
      field.pieces ++ .code " BETWEEN " :: low.pieces ++ .code " AND " :: high.pieces
  | like operand pattern => operand.pieces ++ [.code " LIKE ", .text pattern]

def parenthesized (pieces : List Piece) : List Piece :=
  .code "(" :: pieces ++ [.code ")"]

/-- A test as one of several; a range has a word of its own that would be confused with the
connective. -/
def Test.operand (test : Test) : List Piece :=
  match test with
  | between .. => parenthesized test.pieces
  | _ => test.pieces

def testPieces (tests : List Test) : List Piece :=
  .code " WHERE " :: joined " AND " (tests.map Test.operand)

def Lookup.pieces (lookup : Lookup) : List Piece :=
  .code "SELECT " :: lookup.shown.pieces ++ [.code " FROM ", .name lookup.table] ++
    (match lookup.join with
    | some (table, left, right) =>
        [.code " INNER JOIN ", .name table, .code " ON "] ++ (Test.same left right).pieces
    | none => []) ++
    testPieces lookup.tests ++
    (match lookup.first with
    | some field => .code " ORDER BY " :: field.pieces ++ [.code " ASC LIMIT 1"]
    | none => [])

def userTable : String := "core_user"

def userId : Field :=
  ⟨userTable, "id"⟩

def restrictionPieces (list : String) : List Piece :=
  userId.pieces ++ [.code " IN (", .verbatim list, .code ")"]

namespace Condition

inductive Binding where
  /-- Always in parentheses. -/
  | loose
  /-- Never in parentheses. -/
  | tight
  /-- In parentheses unless it continues a conjunction. -/
  | conjunction
  /-- In parentheses unless it continues a disjunction. -/
  | disjunction
  deriving DecidableEq, Repr

def binding : Condition -> Binding
  | constant _ => .loose
  | restriction _ => .loose
  | test (.between ..) => .loose
  | test _ => .tight
  | .exists _ => .tight
  | figure .. => .tight
  | and _ _ => .conjunction
  | or _ _ => .disjunction
  | not _ => .loose

/-- The pieces of an operand, in parentheses unless it binds tightly or continues the
connective around it. -/
def enclosed (operand : Condition) (around : Binding) (pieces : List Piece) : List Piece :=
  if operand.binding == .tight || operand.binding == around then pieces
  else parenthesized pieces

def pieces : Condition -> List Piece
  | constant value => [.code (if value then "TRUE" else "FALSE")]
  | restriction list => restrictionPieces list
  | test t => t.pieces
  | .exists lookup => .code "EXISTS(" :: lookup.pieces ++ [.code ")"]
  | figure lookup comparison value =>
      parenthesized (parenthesized lookup.pieces) ++
        .code (comparisonSign comparison) :: value.pieces
  | and left right =>
      enclosed left .conjunction left.pieces ++ .code " AND " ::
        enclosed right .tight right.pieces
  | or left right =>
      enclosed left .disjunction left.pieces ++ .code " OR " ::
        enclosed right .tight right.pieces
  | not inner => .code "NOT " :: enclosed inner .tight inner.pieces

end Condition
end Statement
end Audience
