import Mathlib
import Audience.Text.Split
import Audience.Time.Timestamp

/-!
# Expressions over tables

What a database makes of a condition on a row.  A comparison with a missing value is neither
true nor false, and a row is kept by a condition only if the condition is true.  A subquery
sees the rows around it: it runs over all rows of its own tables and refers to the outer row
by the name of the outer table.

## Values
-/

namespace Audience
namespace Sql

open Time

inductive Value where
  | null
  | truth (answer : Bool)
  | text (s : String)
  | integer (n : Int)
  | number (q : ℚ)
  | time (t : Timestamp)
  deriving DecidableEq

namespace Value

def number? : Value -> Option ℚ
  | integer n => some n
  | number q => some q
  | _ => none

def asText : Value -> Value
  | integer n => text (toString n)
  | text s => text s
  | _ => null

def both : Value -> Value -> Value
  | truth false, _ => truth false
  | _, truth false => truth false
  | truth true, truth true => truth true
  | _, _ => null

def either : Value -> Value -> Value
  | truth true, _ => truth true
  | _, truth true => truth true
  | truth false, truth false => truth false
  | _, _ => null

/-- The sum of the values that are not missing, which is missing if all are. -/
def sum : List Value -> Value
  | [] => null
  | value :: rest =>
      match value.number? with
      | some q => number (q + (sum rest).number?.getD 0)
      | none => sum rest

end Value

/-!
## Comparisons
-/

inductive Sign where
  | equal
  | greater
  | atLeast
  | atMost
  deriving DecidableEq

def Sign.ofNumbers : Sign -> ℚ -> ℚ -> Bool
  | equal, p, q => p = q
  | greater, p, q => q < p
  | atLeast, p, q => q <= p
  | atMost, p, q => p <= q

def readTime? (s : List Char) : Option Timestamp :=
  match Text.splitOn ' ' s with
  | [day, clock] =>
      match Text.splitOn '-' day, Text.splitOn ':' clock with
      | [year, month, day], [hour, minute, second] => do
          let year ← Text.natural? year
          let date ← Date.of? year (← Text.natural? month) (← Text.natural? day)
          let hour ← Text.natural? hour
          let minute ← Text.natural? minute
          let second ← Text.natural? second
          if 0 < year && hour < 24 && minute < 60 && second < 60 then
            Timestamp.of? date (hour * 3600 + minute * 60 + second) 0
          else none
      | _, _ => none
  | _ => none

/-- Compares two values, one of which is missing or of another kind if there is no answer.  A
text that is compared with a time is read as a time.  The order of texts is not needed. -/
def compared (sign : Sign) : Value -> Value -> Value
  | .text s, .text t => if sign = .equal then .truth (s = t) else .null
  | .time s, .time t => .truth (sign.ofNumbers s.ordinal t.ordinal)
  | .time s, .text t =>
      match readTime? t.toList with
      | some t => .truth (sign.ofNumbers s.ordinal t.ordinal)
      | none => .null
  | v, w =>
      match v.number?, w.number? with
      | some p, some q => .truth (sign.ofNumbers p q)
      | _, _ => .null

def among (value : Value) : List Value -> Value
  | [] => .truth false
  | other :: rest => (compared .equal value other).either (among value rest)

/-!
## Expressions
-/

inductive Expr where
  | constant (value : Value)
  | column (table name : String)
  | asText (inner : Expr)
  /-- The first operand that is not missing. -/
  | coalesce (first second : Expr)
  | compare (sign : Sign) (left right : Expr)
  | among (inner : Expr) (values : List Value)
  | both (left right : Expr)
  /-- The number of rows in which there is a value. -/
  | count (inner : Expr)
  | sum (inner : Expr)
  | exists (tables : List String) (condition : Expr)
  /-- The figure of all rows of the tables that meet the condition. -/
  | scalar (figure : Expr) (tables : List String) (condition : Expr)
  deriving DecidableEq

/-- The expression depends on the rows of a group as a whole. -/
def Expr.isFigure : Expr -> Bool
  | constant _ | count _ | sum _ => true
  | coalesce first second => first.isFigure && second.isFigure
  | _ => false

abbrev Row := String -> Value

structure Database where
  rows : String -> List Row

/-- The rows that an expression can refer to, by the names of their tables. -/
abbrev Scope := List (String × Row)

def Scope.value (scope : Scope) (table name : String) : Value :=
  match scope.lookup table with
  | some row => row name
  | none => .null

def Database.scopes (db : Database) (scope : Scope) : List String -> List Scope
  | [] => [scope]
  | table :: tables => (db.rows table).flatMap fun row => db.scopes ((table, row) :: scope) tables

/-- What an expression evaluates to for the rows in scope; a figure is taken over the rows of
a group. -/
def Database.eval (db : Database) : Expr -> Scope -> List Scope -> Value
  | .constant value, _, _ => value
  | .column table name, scope, _ => scope.value table name
  | .asText inner, scope, group => (db.eval inner scope group).asText
  | .coalesce first second, scope, group =>
      match db.eval first scope group with
      | .null => db.eval second scope group
      | value => value
  | .compare sign left right, scope, group =>
      compared sign (db.eval left scope group) (db.eval right scope group)
  | .among inner values, scope, group => Sql.among (db.eval inner scope group) values
  | .both left right, scope, group => (db.eval left scope group).both (db.eval right scope group)
  | .count inner, _, group =>
      .integer (group.countP fun scope => db.eval inner scope [] ≠ .null)
  | .sum inner, _, group => Value.sum (group.map fun scope => db.eval inner scope [])
  | .exists tables condition, scope, _ =>
      .truth ((db.scopes scope tables).any fun rows => db.eval condition rows [] = .truth true)
  | .scalar figure tables condition, scope, _ =>
      db.eval figure scope
        ((db.scopes scope tables).filter fun rows => db.eval condition rows [] = .truth true)

def conjunction : List Expr -> Expr
  | [] => .constant (.truth true)
  | [e] => e
  | e :: rest => .both e (conjunction rest)

/-!
## Laws of values
-/

theorem Value.both_eq_true {v w : Value} :
    v.both w = .truth true <-> v = .truth true ∧ w = .truth true := by
  unfold both
  split <;> simp_all

theorem compared_numbers {v w : Value} {p q : ℚ} (hv : v.number? = some p)
    (hw : w.number? = some q) (sign : Sign) :
    compared sign v w = .truth (sign.ofNumbers p q) := by
  cases v <;> cases hv <;> cases w <;> cases hw <;> rfl

theorem compared_integer {v : Value} {n : Int} :
    compared .equal v (.integer n) = .truth true <-> v.number? = some (n : ℚ) := by
  cases hv : v.number? with
  | none =>
      have hmissing : compared .equal v (.integer n) = .null := by
        cases v <;> first | rfl | cases hv
      simp [hmissing]
  | some p =>
      rw [compared_numbers hv rfl]
      simp [Sign.ofNumbers]

theorem compared_time (sign : Sign) (s : Timestamp) {written : String} {t : Timestamp}
    (h : readTime? written.toList = some t) :
    compared sign (.time s) (.text written) = .truth (sign.ofNumbers s.ordinal t.ordinal) := by
  rw [compared, h]

theorem among_texts (s : String) (values : List String) :
    among (.text s) (values.map .text) = .truth (values.contains s) := by
  induction values with
  | nil =>
      rfl
  | cons value values ih =>
      rw [List.map_cons, among, ih, compared, if_pos rfl, List.contains_cons]
      cases values.contains s <;> by_cases h : s = value <;> simp [h, Value.either]

theorem among_integers (n : Int) (values : List Int) :
    among (.integer n) (values.map .integer) = .truth (values.contains n) := by
  induction values with
  | nil =>
      rfl
  | cons value values ih =>
      rw [List.map_cons, among, ih, compared_numbers rfl rfl, List.contains_cons]
      cases values.contains n <;> by_cases h : n = value <;> simp [h, Sign.ofNumbers, Value.either]

theorem sum_eq (values : List Value) :
    Value.sum values =
      if values.filterMap Value.number? = [] then .null
      else .number (values.filterMap Value.number?).sum := by
  induction values with
  | nil =>
      rfl
  | cons value values ih =>
      cases hvalue : value.number? with
      | none =>
          simp only [Value.sum, hvalue, List.filterMap_cons, ih]
      | some q =>
          have hrest : (Value.sum values).number?.getD 0 =
              (values.filterMap Value.number?).sum := by
            rw [ih]
            split
            case isTrue h =>
              rw [h]
              rfl
            case isFalse h =>
              rfl
          simp [Value.sum, hvalue, hrest]

/-!
## Laws of conditions
-/

namespace Database

variable (db : Database)

def meets (condition : Expr) (scope : Scope) : Bool :=
  db.eval condition scope [] = .truth true

@[simp] theorem meets_both (e f : Expr) (scope : Scope) :
    db.meets (.both e f) scope = (db.meets e scope && db.meets f scope) := by
  have heval : db.eval (.both e f) scope [] = (db.eval e scope []).both (db.eval f scope []) := rfl
  simp [meets, heval, Value.both_eq_true]

theorem meets_conjunction (es : List Expr) (scope : Scope) :
    db.meets (conjunction es) scope = es.all fun e => db.meets e scope := by
  induction es with
  | nil =>
      rfl
  | cons e es ih =>
      cases es with
      | nil =>
          simp [conjunction]
      | cons f es =>
          have hcons : conjunction (e :: f :: es) = .both e (conjunction (f :: es)) := rfl
          rw [List.all_cons, hcons, meets_both, ih]

@[simp] theorem scopes_single (scope : Scope) (table : String) :
    db.scopes scope [table] = (db.rows table).map fun row => (table, row) :: scope := by
  simp [scopes, List.map_eq_flatMap]

theorem eval_existsIn (tables : List String) (condition : Expr) (scope : Scope)
    (group : List Scope) :
    db.eval (.exists tables condition) scope group =
      .truth ((db.scopes scope tables).any (db.meets condition)) := rfl

theorem eval_scalarOver (figure : Expr) (tables : List String) (condition : Expr) (scope : Scope)
    (group : List Scope) :
    db.eval (.scalar figure tables condition) scope group =
      db.eval figure scope ((db.scopes scope tables).filter (db.meets condition)) := rfl

theorem eval_exists (table : String) (condition : Expr) (scope : Scope) (group : List Scope) :
    db.eval (.exists [table] condition) scope group =
      .truth ((db.rows table).any fun row => db.meets condition ((table, row) :: scope)) := by
  rw [eval_existsIn, scopes_single, List.any_map]
  rfl

theorem eval_exists_pair (table other : String) (condition : Expr) (scope : Scope)
    (group : List Scope) :
    db.eval (.exists [table, other] condition) scope group =
      .truth ((db.rows table).any fun row => (db.rows other).any fun second =>
        db.meets condition ((other, second) :: (table, row) :: scope)) := by
  have hscopes : db.scopes scope [table, other] =
      (db.rows table).flatMap fun row => db.scopes ((table, row) :: scope) [other] := rfl
  rw [eval_existsIn, hscopes, List.any_flatMap]
  simp only [scopes_single, List.any_map]
  rfl

theorem eval_scalar (figure : Expr) (table : String) (condition : Expr) (scope : Scope)
    (group : List Scope) :
    db.eval (.scalar figure [table] condition) scope group =
      db.eval figure scope (((db.rows table).filter fun row =>
        db.meets condition ((table, row) :: scope)).map fun row => (table, row) :: scope) := by
  rw [eval_scalarOver, scopes_single, List.filter_map]
  rfl

theorem eval_count {inner : Expr} {scope : Scope} {group : List Scope}
    (h : forall rows, rows ∈ group -> db.eval inner rows [] ≠ .null) :
    db.eval (.count inner) scope group = .integer group.length := by
  have hcount : group.countP (fun rows => decide (db.eval inner rows [] ≠ .null)) =
      group.length := by
    rw [List.countP_eq_length]
    intro rows hrows
    exact decide_eq_true (h rows hrows)
  exact congrArg (fun n : Nat => Value.integer n) hcount

theorem number_sumOrZero {inner : Expr} {scope : Scope} {group : List Scope} {qs : List ℚ}
    (h : (qs.map Value.number).Perm (group.map fun rows => db.eval inner rows [])) :
    (db.eval (.coalesce (.sum inner) (.constant (.integer 0))) scope group).number? =
      some qs.sum := by
  have hperm := h.filterMap Value.number?
  have hnumbers : (qs.map Value.number).filterMap Value.number? = qs := by
    rw [List.filterMap_map]
    exact List.filterMap_some
  rw [hnumbers] at hperm
  rw [eval, eval, eval, sum_eq, ← hperm.sum_eq]
  by_cases hqs : qs = []
  · rw [hqs] at hperm
    rw [if_pos hperm.nil_eq.symm, hqs]
    rfl
  · rw [if_neg fun hnil => hqs (hnil ▸ hperm).eq_nil]
    rfl

end Database
end Sql
end Audience
