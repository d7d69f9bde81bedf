import Audience.Geo.Box
import Audience.Number.Decimal
import Audience.Time.Timestamp
import Audience.Vocabulary

/-!
# Users

A user row together with the rows of other tables that belong to it.
-/

namespace Audience

open Time

structure CustomField where
  name : String
  value : String
  deriving DecidableEq, Repr

structure Action where
  id : Int
  pageId : Int
  pageTagIds : List Int
  createdAt : Timestamp
  deriving DecidableEq

structure Opening where
  id : Int
  createdAt : Timestamp
  deriving DecidableEq

structure Order where
  id : Int
  total : Decimal
  status : String
  createdAt : Timestamp
  deriving DecidableEq

structure User where
  id : Int
  firstName : String
  lastName : String
  email : String
  country : String
  region : String
  state : String
  city : String
  zip : String
  source : String
  languageId : Option Int
  subscriptionStatus : String
  createdAt : Timestamp
  location : Option Geo.Coordinates
  phones : List String
  fields : List CustomField
  actions : List Action
  openings : List Opening
  orders : List Order

/-- The status of orders that count as donations. -/
def completedStatus : String := "completed"

namespace User

/-- The text in a column; a missing language is the empty text. -/
def column (user : User) : Column -> String
  | .country => user.country
  | .region => user.region
  | .state => user.state
  | .city => user.city
  | .zip => user.zip
  | .source => user.source
  | .language => (user.languageId.map toString).getD ""
  | .subscriptionStatus => user.subscriptionStatus

def fullName (user : User) : String :=
  user.firstName ++ " " ++ user.lastName

def searchText (user : User) : SearchText -> String
  | .fullName => user.fullName
  | .email => user.email

def relatedValues (user : User) : Relation -> List String
  | .actionPage => user.actions.map fun action => toString action.pageId
  | .actionPageTag => user.actions.flatMap fun action => action.pageTagIds.map toString
  | .userField name => (user.fields.filter fun field => field.name == name).map (·.value)
  | .phone => user.phones

def completedOrders (user : User) : List Order :=
  user.orders.filter fun order => order.status == completedStatus

end User
end Audience
