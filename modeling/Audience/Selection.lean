import Audience.Contact
import Audience.Plan
import Audience.Text.Like
import Audience.User

/-!
# Selecting users

A predicate is decided on a user part by part, from the left, and no further than needed.
The only thing that can go wrong is a total of orders that exceeds the range of amounts.
-/

namespace Audience

open Time

inductive Overflow where
  | total
  deriving DecidableEq, Repr

def notBefore (since : Option Timestamp) (time : Timestamp) : Bool :=
  match since with
  | none => true
  | some bound => bound.le time

def distinctCount (ids : List Int) : Quantity :=
  .ofInt (Number.ascending ids).length

def User.figure (user : User) (figure : Figure) (since : Option Timestamp) :
    Except Overflow Quantity :=
  let completed := user.completedOrders.filter fun order => notBefore since order.createdAt
  match figure with
  | .distinctOpens =>
      .ok <| distinctCount <|
        (user.openings.filter fun opening => notBefore since opening.createdAt).map (·.id)
  | .distinctActions =>
      .ok <| distinctCount <|
        (user.actions.filter fun action => notBefore since action.createdAt).map (·.id)
  | .completedCount => .ok <| distinctCount <| completed.map (·.id)
  | .completedTotal =>
      match Decimal.sum? (completed.map (·.total)) with
      | some total => .ok total.quantity
      | none => .error .total

def Bound.quantity : Bound -> Quantity
  | .count n => .ofInt n
  | .amount d => d.quantity

def Comparison.ofQuantities : Comparison -> Quantity -> Quantity -> Bool
  | .gt, p, q => q.lt p
  | .gte, p, q => q.le p
  | .lte, p, q => p.le q

def Comparison.ofTimes : Comparison -> Timestamp -> Timestamp -> Bool
  | .gt, s, t => t.lt s
  | .gte, s, t => t.le s
  | .lte, s, t => s.le t

namespace Predicate

/-- Whether a value is missing or listed. -/
def listed (values : Option (List String)) (value : String) : Bool :=
  match values with
  | none => true
  | some values => values.contains value

mutual

def holds (user : User) : Predicate -> Except Overflow Bool
  | everyone => .ok true
  | nobody => .ok false
  | columnIn column values => .ok (values.contains (user.column column))
  | columnIs column value => .ok (user.column column == value)
  | created comparison time => .ok (comparison.ofTimes user.createdAt time)
  | within box => .ok ((user.location.map box.contains).getD false)
  | related relation values => .ok ((user.relatedValues relation).any (listed values))
  | idIn ids => .ok (ids.contains user.id)
  | figure kind since comparison bound =>
      (user.figure kind since).map fun value => comparison.ofQuantities value bound.quantity
  | like target pattern =>
      .ok (Text.like pattern.toList (user.searchText target).toList)
  | all parts => allHold user parts
  | any parts => anyHolds user parts
  | not inner => (holds user inner).map (!·)

/-- Whether all predicates hold of a user; the first that does not ends the search. -/
def allHold (user : User) : List Predicate -> Except Overflow Bool
  | [] => .ok true
  | p :: rest =>
      match holds user p with
      | .ok true => allHold user rest
      | outcome => outcome

def anyHolds (user : User) : List Predicate -> Except Overflow Bool
  | [] => .ok false
  | p :: rest =>
      match holds user p with
      | .ok false => anyHolds user rest
      | outcome => outcome

end

def holdsOfEach (p : Predicate) : List User -> Except Overflow (List Bool)
  | [] => .ok []
  | user :: rest => do
      let here ← p.holds user
      let others ← holdsOfEach p rest
      return here :: others

end Predicate

def selected (p : Predicate) : List User -> Except Overflow (List User)
  | [] => .ok []
  | user :: rest => do
      let here ← p.holds user
      let others ← selected p rest
      return if here then user :: others else others

/-- The ids of the users that a plan selects, in ascending order, each once. -/
def Plan.matchingIds (plan : Plan) (users : List User) : Except Overflow (List Int) :=
  (selected plan.selection users).map fun chosen => Number.ascending (chosen.map (·.id))

end Audience
