import Audience.Predicate

/-!
# Query plans

A plan says which users are selected, which columns are shown for them, and whether equal
rows are shown once.  Plans are changed in steps that start from the baseline.
-/

namespace Audience

inductive OutputColumn where
  | id
  /-- The first phone number on file. -/
  | phone
  /-- First and last name with a space between them. -/
  | fullName
  /-- The first value of the custom field with this name. -/
  | userField (name : String)
  deriving DecidableEq, Repr

def OutputColumn.alias : OutputColumn -> String
  | .id => "id"
  | .phone => "phone"
  | .fullName => "name"
  | .userField name => name

structure Plan where
  selection : Predicate
  columns : List OutputColumn
  isDistinct : Bool

namespace Plan

/-- Every user, by id alone. -/
def baseline : Plan :=
  ⟨.everyone, [.id], false⟩

def filter (plan : Plan) (p : Predicate) : Plan :=
  { plan with selection := plan.selection.and p }

def none (plan : Plan) : Plan :=
  { plan with selection := .nobody }

def withColumn (plan : Plan) (column : OutputColumn) : Plan :=
  if plan.columns.contains column then plan
  else { plan with columns := plan.columns ++ [column] }

def withColumns (plan : Plan) (columns : List OutputColumn) : Plan :=
  columns.foldl withColumn plan

def distinct (plan : Plan) : Plan :=
  { plan with isDistinct := true }

def isBaseline (plan : Plan) : Bool :=
  plan.selection.isUnfiltered && plan.columns == [.id] && !plan.isDistinct

end Plan
end Audience
