import Audience.Proofs.Expressions
import Audience.Proofs.Separation

/-!
# How a database reads an expression

Expressions are read from tokens by recursive descent: a condition is a conjunction of
comparisons, and a comparison has operands that are constants, columns, calls, subqueries or
conditions in parentheses.  Each reader gives the expression it has read and the tokens that
are left.

## Constants
-/

namespace Audience
namespace Sql
namespace Reader

open Statement

def keyword (letters : String) : Token :=
  .word letters.toList

def comma : Token := .sign [',']

def expect (token : Token) : List Token -> Option (List Token)
  | [] => none
  | found :: rest => if found = token then some rest else none

/-- A text between quotes, which cannot hold the character with number zero. -/
def text? (token : Token) : Option String :=
  match token with
  | .text _ | .escaped _ =>
      (token.value?.filter fun s => !s.contains '\x00').map String.ofList
  | _ => none

def numeral? (figures : List Char) : Option Value :=
  match Text.splitOn '.' figures with
  | [whole] => (Text.natural? whole).map fun n => .integer n
  | [whole, decimals] => do
      let whole ← Text.natural? whole
      let fraction ← Text.natural? decimals
      return .number (whole + fraction / 10 ^ decimals.length)
  | _ => none

def negative : Value -> Value
  | .integer n => .integer (-n)
  | .number q => .number (-q)
  | value => value

def constant? : List Token -> Option (Value × List Token)
  | .number figures :: rest => (numeral? figures).map fun value => (value, rest)
  | .sign ['-'] :: .number figures :: rest =>
      (numeral? figures).map fun value => (negative value, rest)
  | token :: rest =>
      if token = keyword "TRUE" then some (.truth true, rest)
      else if token = keyword "FALSE" then some (.truth false, rest)
      else (text? token).map fun s => (.text s, rest)
  | [] => none

def constants? : Nat -> List Token -> Option (List Value × List Token)
  | 0, _ => none
  | fuel + 1, tokens => do
      let (value, rest) ← constant? tokens
      match expect comma rest with
      | some rest => do
          let (values, rest) ← constants? fuel rest
          return (value :: values, rest)
      | none => return ([value], ← expect closing rest)

/-!
## Names
-/

def nameOf (body : List Char) : String :=
  String.ofList (undoubled doubleQuote body)

def name? : List Token -> Option (String × List Token)
  | .name body :: rest => some (nameOf body, rest)
  | _ => none

def sign? (marks : List Char) : Option Sign :=
  if marks = ['='] then some .equal
  else if marks = ['>'] then some .greater
  else if marks = ['>', '='] then some .atLeast
  else if marks = ['<', '='] then some .atMost
  else none

/-!
## Expressions

The first argument bounds the number of steps.  Three steps for each token are enough: one
for a condition, one for its comparison and one for the operand.
-/

mutual

def operand? : Nat -> List Token -> Option (Expr × List Token)
  | 0, _ => none
  | fuel + 1, tokens =>
      match constant? tokens with
      | some (value, rest) => some (.constant value, rest)
      | none =>
          match tokens with
          | .name table :: .sign ['.'] :: .name column :: rest =>
              some (.column (nameOf table) (nameOf column), rest)
          | .sign ['('] :: rest =>
              if rest.head? = some (keyword "SELECT") then do
                let (shown, tables, condition, rest) ← query? fuel rest
                let rest ← expect closing rest
                if shown.isFigure then return (.scalar shown tables condition, rest) else none
              else do
                let (inner, rest) ← condition? fuel rest
                return (inner, ← expect closing rest)
          | .word letters :: .sign ['('] :: rest => call? fuel letters rest
          | _ => none

def call? : Nat -> List Char -> List Token -> Option (Expr × List Token)
  | 0, _, _ => none
  | fuel + 1, letters, tokens =>
      if letters = "EXISTS".toList then do
        let (_, tables, condition, rest) ← query? fuel tokens
        return (.exists tables condition, ← expect closing rest)
      else do
        let (first, rest) ← operand? fuel tokens
        if letters = "CAST".toList then do
          let rest ← expect (keyword "AS") rest
          let rest ← expect (keyword "text") rest
          return (.asText first, ← expect closing rest)
        else if letters = "COALESCE".toList then do
          let rest ← expect comma rest
          let (second, rest) ← operand? fuel rest
          return (.coalesce first second, ← expect closing rest)
        else if letters = "COUNT".toList then
          return (.count first, ← expect closing rest)
        else if letters = "SUM".toList then
          return (.sum first, ← expect closing rest)
        else none

def comparison? : Nat -> List Token -> Option (Expr × List Token)
  | 0, _ => none
  | fuel + 1, tokens => do
      let (left, rest) ← operand? fuel tokens
      match rest with
      | .sign marks :: after =>
          match sign? marks with
          | some sign => do
              let (right, rest) ← operand? fuel after
              return (.compare sign left right, rest)
          | none => return (left, rest)
      | .word letters :: after =>
          if letters = "IN".toList then do
            let (values, rest) ← constants? fuel (← expect opening after)
            return (.among left values, rest)
          else return (left, rest)
      | _ => return (left, rest)

def condition? : Nat -> List Token -> Option (Expr × List Token)
  | 0, _ => none
  | fuel + 1, tokens => do
      let (left, rest) ← comparison? fuel tokens
      match expect (keyword "AND") rest with
      | some after => do
          let (right, rest) ← condition? fuel after
          return (.both left right, rest)
      | none => return (left, rest)

/-- What a query shows, its tables, and the condition on their rows, to which the condition
of a join belongs. -/
def query? : Nat -> List Token -> Option (Expr × List String × Expr × List Token)
  | 0, _ => none
  | fuel + 1, tokens => do
      let rest ← expect (keyword "SELECT") tokens
      let (shown, rest) ← operand? fuel rest
      let rest ← expect (keyword "FROM") rest
      let (table, rest) ← name? rest
      match expect (keyword "INNER") rest with
      | none => do
          let rest ← expect (keyword "WHERE") rest
          let (condition, rest) ← condition? fuel rest
          return (shown, [table], condition, rest)
      | some rest => do
          let rest ← expect (keyword "JOIN") rest
          let (other, rest) ← name? rest
          let rest ← expect (keyword "ON") rest
          let (on, rest) ← comparison? fuel rest
          let rest ← expect (keyword "WHERE") rest
          let (condition, rest) ← condition? fuel rest
          return (shown, [table, other], .both on condition, rest)

end

def read? (s : List Char) : Option Expr :=
  match condition? (3 * (Lexer.lex s).length + 3) (Lexer.lex s) with
  | some (expr, []) => some expr
  | _ => none

end Reader
end Sql
end Audience
