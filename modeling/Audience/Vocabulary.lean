/-!
# What is known about a user

The names by which filters, plans and statements speak of user data: columns of the user
row, relations to rows of other tables, figures computed per user, and the texts that can
be searched.
-/

namespace Audience

inductive Column where
  | country
  | region
  | state
  | city
  | zip
  | source
  | language
  | subscriptionStatus
  deriving DecidableEq, Repr

def Column.sqlName : Column -> String
  | .country => "country"
  | .region => "region"
  | .state => "state"
  | .city => "city"
  | .zip => "zip"
  | .source => "source"
  | .language => "lang_id"
  | .subscriptionStatus => "subscription_status"

inductive Relation where
  | actionPage
  | actionPageTag
  /-- The values of the custom field with this name. -/
  | userField (name : String)
  | phone
  deriving DecidableEq, Repr

inductive Figure where
  | distinctOpens
  | distinctActions
  | completedTotal
  /-- The number of different completed orders. -/
  | completedCount
  deriving DecidableEq, Repr

inductive Comparison where
  | gt
  | gte
  | lte
  deriving DecidableEq, Repr

inductive SearchText where
  /-- First and last name with a space between them. -/
  | fullName
  | email
  deriving DecidableEq, Repr

end Audience
