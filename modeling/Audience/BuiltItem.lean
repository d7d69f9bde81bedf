import Audience.Contact
import Audience.Entry
import Audience.Group
import Audience.Predicate

/-!
# From filters to predicates

Each filter of a group becomes a predicate and a phrase that describes it.  A filter that is
turned round gives the negation of exactly the predicate it would have given.
-/

namespace Audience

structure Sources where
  geocoder : Geo.Geocoder
  contacts : ContactLog

structure BuiltItem where
  predicate : Predicate
  phrase : String

namespace BuiltItem

/-- The predicate as it is or negated, with a leading "not" where it is negated. -/
def toggled (predicate : Predicate) (phrase : String) (included : Bool) : BuiltItem :=
  if included then ⟨predicate, phrase⟩ else ⟨predicate.negate, "not " ++ phrase⟩

def firstValue (item : FilterItem) : Except RequestError String :=
  match item.values with
  | value :: _ => .ok value
  | [] => .error (.missingValue item.name)

def companionDate (item : FilterItem) (companion : String) :
    Except RequestError (Option Time.Timestamp) :=
  match item.companion? companion with
  | some raw => (Entry.date item.name raw).map some
  | none => .ok none

def companionPhrase (item : FilterItem) (companion words : String) : String :=
  match item.companion? companion with
  | some raw => words ++ Text.trimmed raw
  | none => ""

def membership (spec : FilterSpec) (item : FilterItem) : Except RequestError BuiltItem := do
  let _ ← firstValue item
  let words := if item.included then " is in (" else " is not in ("
  let phrase := item.name ++ words ++ String.intercalate ", " item.values ++ ")"
  match spec.field with
  | some (.column column) =>
      return ⟨(Predicate.columnIn column item.values).toggled item.included, phrase⟩
  | some (.related relation) =>
      return ⟨(Predicate.related relation (some item.values)).toggled item.included, phrase⟩
  | none => .error (.unknownFilter spec.name)

def createdDate (comparison : Comparison) (words : String) (item : FilterItem) :
    Except RequestError BuiltItem := do
  let raw ← firstValue item
  let time ← Entry.date item.name raw
  return toggled (.created comparison time) (words ++ Text.trimmed raw) item.included

/-- Errors of a geocoder: an unknown place is an error of the request. -/
def geocodeError (postalCode : String) : Geo.GeocodeError -> SearchError
  | .noResult _ _ => .request (.unresolvedPostalCode postalCode)
  | .malformed _ _ => .request (.unresolvedPostalCode postalCode)
  | .transport provider source => .geocode (.transport provider source)

def radiusBox (geocoder : Geo.Geocoder) (postalCode rawDistance : String) :
    Except SearchError Geo.Box := do
  let miles ← (Entry.distance rawDistance).mapError .request
  let center ← (geocoder.resolve postalCode).mapError (geocodeError postalCode)
  let box := Geo.Box.around center miles
  if box.isDegenerate then .error (.request (.degenerateBox center)) else return box

/-- Within a radius of a postal code, or with exactly this postal code if there is no
radius. -/
def postalRadius (geocoder : Geo.Geocoder) (item : FilterItem) :
    Except SearchError BuiltItem := do
  let raw ← (firstValue item).mapError .request
  let postalCode := Text.trimmed raw
  match item.companion? distanceCompanion with
  | none =>
      return toggled (.columnIs .zip postalCode) ("in zip code " ++ postalCode) item.included
  | some rawDistance =>
      let box ← radiusBox geocoder postalCode rawDistance
      return toggled (.within box)
        ("within " ++ Text.trimmed rawDistance ++ " miles of " ++ postalCode) item.included

def contacted (log : ContactLog) (criteria : ContactCriteria) :
    Except SearchError Predicate :=
  match log.userIds criteria with
  | .ok ids => .ok (.idIn ids)
  | .error message => .error (.contactLookup message)

def contactedSince (log : ContactLog) (item : FilterItem) : Except SearchError BuiltItem := do
  let raw ← (firstValue item).mapError .request
  let since ← (Entry.date item.name (Text.trimmed raw)).mapError .request
  let who := (item.companion? contactedByCompanion).map Text.trimmed
  let predicate ← contacted log ⟨some since, who⟩
  let phrase :=
    "contacted since " ++ Text.trimmed raw ++ companionPhrase item contactedByCompanion " by "
  return toggled predicate phrase item.included

def contactedBy (log : ContactLog) (item : FilterItem) : Except SearchError BuiltItem := do
  let raw ← (firstValue item).mapError .request
  let since ← (companionDate item contactedSinceCompanion).mapError .request
  let predicate ← contacted log ⟨since, some (Text.trimmed raw)⟩
  let phrase :=
    "contacted by " ++ Text.trimmed raw ++ companionPhrase item contactedSinceCompanion " since "
  return toggled predicate phrase item.included

def emailsOpened (item : FilterItem) : Except RequestError BuiltItem := do
  let n ← Entry.count item.name (← firstValue item)
  let since ← companionDate item sinceCompanion
  return toggled (.figure .distinctOpens since .gte (.count n))
    ("opened at least " ++ toString n ++ " emails" ++
      companionPhrase item sinceCompanion " since ")
    item.included

def moreActions (item : FilterItem) : Except RequestError BuiltItem := do
  let n ← Entry.count item.name (← firstValue item)
  let since ← companionDate item sinceCompanion
  return toggled (.figure .distinctActions since .gt (.count n))
    ("more than " ++ toString n ++ " actions" ++ companionPhrase item sinceCompanion " since ")
    item.included

def donation (predicate : Predicate) (phrase : String) (included : Bool) : BuiltItem :=
  let verb := if included then "has " else "has not "
  ⟨predicate.toggled included, verb ++ phrase⟩

/-- A total of donations of at least an amount. -/
def donatedMore (item : FilterItem) : Except RequestError BuiltItem := do
  let raw := Text.trimmed (← firstValue item)
  let amount ← Entry.amount item.name raw
  let since ← companionDate item sinceCompanion
  return donation (.figure .completedTotal since .gte (.amount amount))
    ("donated more than " ++ raw ++ companionPhrase item sinceCompanion " since ")
    item.included

def donatedTimes (item : FilterItem) : Except RequestError BuiltItem := do
  let n ← Entry.count item.name (← firstValue item)
  let since ← companionDate item sinceCompanion
  return donation (.figure .completedCount since .gte (.count n))
    ("donated more than " ++ toString n ++ " times" ++
      companionPhrase item sinceCompanion " since ")
    item.included

def ofItem (sources : Sources) (spec : FilterSpec) (item : FilterItem) :
    Except SearchError BuiltItem :=
  match spec.builder with
  | .membership => (membership spec item).mapError .request
  | .createdBefore => (createdDate .lte "created before " item).mapError .request
  | .createdAfter => (createdDate .gte "created after " item).mapError .request
  | .postalRadius => postalRadius sources.geocoder item
  | .contactedSince => contactedSince sources.contacts item
  | .contactedBy => contactedBy sources.contacts item
  | .emailsOpened => (emailsOpened item).mapError .request
  | .moreActions => (moreActions item).mapError .request
  | .donatedMore => (donatedMore item).mapError .request
  | .donatedTimes => (donatedTimes item).mapError .request

def ofItems (sources : Sources) (catalog : Catalog) :
    List FilterItem -> Except SearchError (List BuiltItem)
  | [] => .ok []
  | item :: items =>
      match catalog.get? item.name with
      | none => .error (.request (.unknownFilter item.name))
      | some spec => do
          let first ← ofItem sources spec item
          let rest ← ofItems sources catalog items
          return first :: rest

def ofGroups (sources : Sources) (catalog : Catalog) :
    List FilterGroup -> Except SearchError (List (List BuiltItem))
  | [] => .ok []
  | group :: groups => do
      let first ← ofItems sources catalog group.items
      let rest ← ofGroups sources catalog groups
      return first :: rest

def conjunction (items : List BuiltItem) : Predicate :=
  items.foldl (fun p item => p.and item.predicate) .everyone

def conjunctionPhrase (items : List BuiltItem) : String :=
  "(" ++ String.intercalate " and " (items.map (·.phrase)) ++ ")"

/-- A group that narrows nothing. -/
def isIdle (items : List BuiltItem) : Bool :=
  items.isEmpty || (conjunction items).isUnfiltered

end BuiltItem
end Audience
