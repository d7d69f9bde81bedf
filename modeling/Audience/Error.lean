import Audience.Geo.Geocoder
import Audience.Number.Shortest
import Audience.Report.Error

/-!
# Errors

What can go wrong between a request and its report: the request itself is unusable, or one
of the services that are asked on the way fails.
-/

namespace Audience

inductive RequestError where
  | unknownFilter (name : String)
  | invalidDate (filter value : String)
  | invalidNumber (filter value : String)
  | invalidDistance (value : String)
  | unresolvedPostalCode (postalCode : String)
  /-- The box around a point is of no use. -/
  | degenerateBox (center : Geo.Coordinates)
  | invalidUserId (value : String)
  | missingValue (filter : String)
  | unknownColumnKind (column kind : String)
  | invalidColumnParameters (column parameters : String)

def RequestError.message : RequestError -> String
  | unknownFilter name => "Unknown filter '" ++ name ++ "'"
  | invalidDate filter value => "Invalid date '" ++ value ++ "' for '" ++ filter ++ "'"
  | invalidNumber filter value => "Invalid number '" ++ value ++ "' for '" ++ filter ++ "'"
  | invalidDistance value =>
      "Bad distance '" ++ value ++ "': radius must be a positive number of miles"
  | unresolvedPostalCode postalCode =>
      "No location found for postal code '" ++ postalCode ++ "'"
  | degenerateBox center =>
      "Radius around (" ++ Number.floatText center.lat ++ ", " ++
        Number.floatText center.lon ++ ") does not form a usable bounding box"
  | invalidUserId value => "Invalid id '" ++ value ++ "' in user id list"
  | missingValue filter => "Filter '" ++ filter ++ "' requires a value"
  | unknownColumnKind column kind =>
      "Unknown extension column kind '" ++ kind ++ "' for column '" ++ column ++ "'"
  | invalidColumnParameters column parameters =>
      "Invalid parameters '" ++ parameters ++ "' for extension column '" ++ column ++ "'"

inductive CaptureError where
  /-- The statement that must be refused returned rows. -/
  | unexpectedSuccess (rows : Nat)
  | noStatementRecorded
  | sentinelMissing (fragment : String)
  /-- The fragment with the sentinel occurs more than once. -/
  | ambiguousSentinel (fragment : String) (occurrences : Nat)
  deriving DecidableEq, Repr

def CaptureError.message : CaptureError -> String
  | unexpectedSuccess rows =>
      "Sentinel query was expected to fail but returned " ++ toString rows ++ " row(s)"
  | noStatementRecorded => "Backend failed but recorded no statement"
  | sentinelMissing fragment =>
      "Captured statement does not contain sentinel fragment '" ++ fragment ++ "'"
  | ambiguousSentinel fragment occurrences =>
      "Captured statement contains sentinel fragment '" ++ fragment ++ "' " ++
        toString occurrences ++ " times"

inductive SearchError where
  | request (cause : RequestError)
  | geocode (cause : Geo.GeocodeError)
  | capture (cause : CaptureError)
  /-- The contact log failed, in its own words. -/
  | contactLookup (message : String)
  /-- The catalog of extension columns failed, in its own words. -/
  | columnCatalog (message : String)
  | report (cause : Report.ServiceError)

def SearchError.message : SearchError -> String
  | request cause => "Validation error: " ++ cause.message
  | geocode cause => "Geocoding error: " ++ cause.message
  | capture cause => "Template capture error: " ++ cause.message
  | contactLookup message => "Contact lookup failed: " ++ message
  | columnCatalog message => "Extension column catalog failed: " ++ message
  | report cause => "Report service error: " ++ cause.message

end Audience
