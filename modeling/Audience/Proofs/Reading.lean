import Audience.Proofs.Connectives
import Audience.Proofs.StatementTokens
import Audience.Text.Integer

/-!
# How a database reads a condition

The tokens of a statement are first grouped by their parentheses; then the part behind the
keyword of the condition is cut at the connectives, the loosest first: at every `OR`, then
at every `AND`, and then each `NOT` is taken off from the front.  What remains is a formula
in parentheses, a constant, a lookup of rows or any other condition, which is an atom.  The
`AND` of a range belongs to the range.

A lookup finds no row if its own condition cannot be met, and a comparison of two numbers is
a constant.  Every other atom may be true or false.
-/

namespace Audience
namespace Statement
namespace Reader

/-!
# Formulas
-/

inductive Formula where
  | constant (value : Bool)
  | atom (tokens : List Token)
  /-- Rows exist that meet a condition. -/
  | lookup (tokens : List Token) (rows : Formula)
  | not (inner : Formula)
  | and (left right : Formula)
  | or (left right : Formula)
  deriving DecidableEq, Repr

/-- The truth of a formula when the conditions that are its atoms are true or false.  The
conditions on the rows of a lookup are about other tables. -/
def Formula.Holds : Formula -> (List Token -> Bool) -> Prop
  | constant value, _ => value = true
  | atom tokens, v => v tokens = true
  | lookup tokens rows, v => v tokens = true ∧ exists w, rows.Holds w
  | not inner, v => ¬ inner.Holds v
  | and left right, v => left.Holds v ∧ right.Holds v
  | or left right, v => left.Holds v ∨ right.Holds v

def Formula.join : Connective -> Formula -> Formula -> Formula
  | .conjunction => and
  | .disjunction => or

/-- The formula of several parts; of no parts it is the constant that changes nothing. -/
def Formula.joined (connective : Connective) : List Formula -> Formula
  | [] => constant connective.neutralAnswer
  | [formula] => formula
  | formula :: rest => join connective formula (joined connective rest)

theorem Formula.join_holds (connective : Connective) (v : List Token -> Bool)
    (left right : Formula) :
    (join connective left right).Holds v <-> connective.Joins (left.Holds v) (right.Holds v) := by
  cases connective <;> exact Iff.rfl

theorem Formula.joined_holds (connective : Connective) (v : List Token -> Bool)
    (formulas : List Formula) :
    (joined connective formulas).Holds v <->
      connective.Across (fun formula => formula.Holds v) formulas := by
  induction formulas with
  | nil =>
      exact connective.across_nil.symm
  | cons formula rest ih =>
      cases rest with
      | nil =>
          rw [joined, Connective.across_singleton]
      | cons second rest =>
          have hcons : joined connective (formula :: second :: rest) =
              join connective formula (joined connective (second :: rest)) := rfl
          rw [hcons, join_holds, ih, Connective.across_cons connective formula]

/-!
# Items
-/

inductive Item where
  | token (token : Token)
  | group (tokens : List Token) (isLookup : Bool) (reading : Formula)
  deriving DecidableEq, Repr

def Item.tokens : Item -> List Token
  | token t => [t]
  | group ts _ _ => opening :: ts ++ [closing]

def flat (items : List Item) : List Token :=
  items.flatMap Item.tokens

def isKeyword (keyword : String) : Item -> Bool
  | .token t => t == .word keyword.toList
  | .group _ _ _ => false

/-!
# Reading items
-/

def extendFirst (item : Item) : List (List Item) -> List (List Item)
  | [] => [[item]]
  | part :: parts => (item :: part) :: parts

/-- The parts between the keywords, given whether a range has begun but not its second
bound. -/
def cut (keyword : String) : Bool -> List Item -> List (List Item)
  | _, [] => [[]]
  | inRange, item :: rest =>
      if isKeyword keyword item && !(inRange && isKeyword "AND" item) then
        [] :: cut keyword false rest
      else
        extendFirst item
          (cut keyword ((inRange || isKeyword "BETWEEN" item) && !isKeyword "AND" item) rest)

def readOperand : List Item -> Formula
  | [.group _ false reading] => reading
  | [.token t, .group ts true rows] =>
      if t == .word "EXISTS".toList then .lookup (t :: opening :: ts ++ [closing]) rows
      else .atom (t :: opening :: ts ++ [closing])
  | [.token (.number m), .token (.sign ['=']), .token (.number n)] =>
      match Text.natural? m, Text.natural? n with
      | some left, some right => .constant (left == right)
      | _, _ => .atom [.number m, .sign ['='], .number n]
  | [.token t] =>
      if t == .word "TRUE".toList then .constant true
      else if t == .word "FALSE".toList then .constant false
      else .atom [t]
  | items => .atom (flat items)

def readNegation : List Item -> Formula
  | [] => readOperand []
  | item :: rest =>
      if isKeyword "NOT" item then .not (readNegation rest) else readOperand (item :: rest)

def readConjunction (items : List Item) : Formula :=
  .joined .conjunction ((cut "AND" false items).map readNegation)

def readDisjunction (items : List Item) : Formula :=
  .joined .disjunction ((cut "OR" false items).map readConjunction)

/-- The condition of a query: what stands behind its keyword and before an order. -/
def wherePart (items : List Item) : List Item :=
  ((items.dropWhile fun item => !isKeyword "WHERE" item).drop 1).takeWhile
    fun item => !isKeyword "ORDER" item

def isQuery (items : List Item) : Bool :=
  items.head?.any (isKeyword "SELECT")

def Item.ofGroup (items : List Item) : Item :=
  .group (flat items) (isQuery items)
    (readDisjunction (if isQuery items then wherePart items else items))

/-!
# Grouping tokens
-/

/-- The items of the innermost open group and of the groups around it, each with the last
item first. -/
structure Groups where
  inner : List Item
  outer : List (List Item)

def Groups.push (groups : Groups) (t : Token) : Groups :=
  if t == opening then ⟨[], groups.inner :: groups.outer⟩
  else if t == closing then
    match groups.outer with
    | around :: outer => ⟨Item.ofGroup groups.inner.reverse :: around, outer⟩
    | [] => ⟨.token t :: groups.inner, []⟩
  else ⟨.token t :: groups.inner, groups.outer⟩

/-- The items of some tokens; a group that is never closed ends where the tokens end. -/
def grouped (ts : List Token) : List Item :=
  let groups := ts.foldl Groups.push ⟨[], []⟩
  (groups.outer.foldl (fun inner around => Item.ofGroup inner.reverse :: around)
    groups.inner).reverse

def readStatement (ts : List Token) : Formula :=
  readDisjunction (wherePart (grouped ts))

end Reader
end Statement
end Audience
