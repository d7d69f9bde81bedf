import Audience.Geo.Geocoder
import Audience.Json.Decoding
import Audience.Json.Reading

/-!
# The postal code search of GeoNames

One result is asked for, in the name of a user.
-/

namespace Audience
namespace Geo
namespace GeoNames

def name : String := "geonames"

def place? (value : Json) : Option (Option Float × Option Float) := do
  match ← value.parts? ["lat", "lng"] false with
  | [lat, lng] =>
      return (← (lat.orDefault .null).optionalNumber?, ← (lng.orDefault .null).optionalNumber?)
  | _ => none

def answer? (value : Json) : Option (List (Option Float × Option Float)) := do
  match ← value.parts? ["postalCodes"] true with
  | [places] => (← (places.orDefault (.list [])).items?).mapM place?
  | _ => none

def coordinates (postalCode body : String) : Except GeocodeError Coordinates :=
  match (Json.read? body).bind answer? with
  | none => .error (.malformed name "json")
  | some ((some lat, some lon) :: _) => .ok ⟨lat, lon⟩
  | some _ => .error (.noResult name postalCode)

def fields (username postalCode : String) : Form :=
  ⟨[("postalcode", postalCode), ("maxRows", "1"), ("username", username)]⟩

def request (target : Http.Target) (username postalCode : String) : Http.Request where
  method := "GET"
  target := target.adding (fields username postalCode)
  accept := "*/*"

def provider (network : Http.Network) (target : Option Http.Target) (username : String) :
    Provider where
  name := name
  lookup postalCode :=
    let failed := .error (.transport name ("Failed to search postal code " ++ postalCode))
    match target with
    | none => ⟨[], failed⟩
    | some target =>
        let request := request target username postalCode
        match network request with
        | none => ⟨[request], failed⟩
        | some response => ⟨[request], coordinates postalCode response.text⟩

end GeoNames
end Geo
end Audience
