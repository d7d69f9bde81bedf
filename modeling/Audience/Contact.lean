import Audience.Time.Timestamp

/-!
# Contacts with users

A contact log is asked for the users that were contacted, since a time or by someone.  It
answers with their ids in ascending order, each once.
-/

namespace Audience

open Time

namespace Number

def insertAscending (n : Int) : List Int -> List Int
  | [] => [n]
  | m :: rest =>
      if n < m then n :: m :: rest
      else if n == m then m :: rest
      else m :: insertAscending n rest

/-- The numbers of a list in ascending order, each once. -/
def ascending (ns : List Int) : List Int :=
  ns.foldr insertAscending []

end Number

structure ContactCriteria where
  /-- Completed after this time. -/
  since : Option Timestamp
  contactedBy : Option String
  deriving DecidableEq

structure ContactRecord where
  userId : Int
  completedAt : Timestamp
  contactedBy : String
  deriving DecidableEq

def ContactRecord.meets (record : ContactRecord) (criteria : ContactCriteria) : Bool :=
  (match criteria.since with
  | some since => since.lt record.completedAt
  | none => true) &&
  (match criteria.contactedBy with
  | some who => record.contactedBy == who
  | none => true)

structure ContactLog where
  userIds : ContactCriteria -> Except String (List Int)

namespace ContactLog

/-- The log of some records; each user is named once, in ascending order. -/
def ofRecords (records : List ContactRecord) : ContactLog where
  userIds criteria :=
    .ok (Number.ascending ((records.filter fun record => record.meets criteria).map (·.userId)))

def failing (message : String) : ContactLog where
  userIds _ := .error message

end ContactLog
end Audience
