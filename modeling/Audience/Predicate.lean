import Audience.Geo.Box
import Audience.Number.Decimal
import Audience.Time.Timestamp
import Audience.Vocabulary

/-!
# Predicates

A predicate is a condition on one user.  It is a plain tree: the same tree is written as a
condition of a statement and decided on a user at hand.

## Combining predicates

`and` and `or` join trees without nesting conjunctions in conjunctions or disjunctions in
disjunctions, and leave out their neutral elements.  `negate` never stacks negations.
-/

namespace Audience

open Time

inductive Bound where
  | count (n : Int)
  | amount (d : Decimal)
  deriving DecidableEq

inductive Predicate where
  | everyone
  | nobody
  /-- The column holds one of the values. -/
  | columnIn (column : Column) (values : List String)
  /-- The column holds the value. -/
  | columnIs (column : Column) (value : String)
  /-- The user was created before or after a time. -/
  | created (comparison : Comparison) (time : Timestamp)
  /-- The user's location lies in the box. -/
  | within (box : Geo.Box)
  /-- A related row exists, with one of the values if any are given. -/
  | related (relation : Relation) (values : Option (List String))
  | idIn (ids : List Int)
  /-- A figure, counted from a time if one is given, compares with a bound. -/
  | figure (kind : Figure) (since : Option Timestamp) (comparison : Comparison)
      (bound : Bound)
  /-- A text matches a wildcard pattern. -/
  | like (target : SearchText) (pattern : String)
  | all (parts : List Predicate)
  | any (parts : List Predicate)
  | not (inner : Predicate)

namespace Predicate

/-- The parts of a conjunction; any other predicate is its own only part. -/
def conjuncts : Predicate -> List Predicate
  | all parts => parts
  | p => [p]

def disjuncts : Predicate -> List Predicate
  | any parts => parts
  | p => [p]

def and (p q : Predicate) : Predicate :=
  match p, q with
  | everyone, q => q
  | p, everyone => p
  | p, q => all (p.conjuncts ++ q.conjuncts)

def or (p q : Predicate) : Predicate :=
  match p, q with
  | nobody, q => q
  | p, nobody => p
  | p, q => any (p.disjuncts ++ q.disjuncts)

def negate : Predicate -> Predicate
  | everyone => nobody
  | nobody => everyone
  | not inner => inner
  | p => not p

def toggled (p : Predicate) (included : Bool) : Predicate :=
  if included then p else p.negate

def isUnfiltered : Predicate -> Bool
  | everyone => true
  | _ => false

def isNobody : Predicate -> Bool
  | nobody => true
  | _ => false

end Predicate
end Audience
