import Audience.Geo.Geocoder
import Audience.Json.Decoding
import Audience.Json.Reading

/-!
# Google's geocoder

The postal code is sent as the address, together with a key if there is one.  Of the
results the first one counts.
-/

namespace Audience
namespace Geo
namespace Google

def name : String := "google"

def location? (value : Json) : Option (Option Float × Option Float) := do
  match ← value.parts? ["lat", "lng"] false with
  | [lat, lng] =>
      return (← (lat.orDefault .null).optionalNumber?, ← (lng.orDefault .null).optionalNumber?)
  | _ => none

def onlyPart? (name : String) (value : Json) : Option Json := do
  match ← value.parts? [name] false with
  | [part] => part.required?
  | _ => none

def result? (value : Json) : Option (Option Float × Option Float) := do
  location? (← onlyPart? "location" (← onlyPart? "geometry" value))

def answer? (value : Json) : Option (String × List (Option Float × Option Float)) := do
  match ← value.parts? ["status", "results"] true with
  | [status, results] =>
      let status ← (status.orDefault (.text "")).text?
      let results ← (results.orDefault (.list [])).items?
      return (status, ← results.mapM result?)
  | _ => none

def coordinates (postalCode body : String) : Except GeocodeError Coordinates :=
  match (Json.read? body).bind answer? with
  | none => .error (.malformed name "json")
  | some (status, places) =>
      if status != "OK" then .error (.malformed name ("status " ++ status))
      else
        match places with
        | (some lat, some lon) :: _ => .ok ⟨lat, lon⟩
        | _ => .error (.noResult name postalCode)

def fields (key : Option String) (postalCode : String) : Form :=
  ⟨("address", postalCode) ::
    match key with
    | some key => [("key", key)]
    | none => []⟩

def request (target : Http.Target) (key : Option String) (postalCode : String) :
    Http.Request where
  method := "GET"
  target := target.adding (fields key postalCode)
  accept := "*/*"

def provider (network : Http.Network) (target : Option Http.Target) (key : Option String) :
    Provider where
  name := name
  lookup postalCode :=
    let failed := .error (.transport name ("Failed to geocode " ++ postalCode))
    match target with
    | none => ⟨[], failed⟩
    | some target =>
        let request := request target key postalCode
        match network request with
        | none => ⟨[request], failed⟩
        | some response => ⟨[request], coordinates postalCode response.text⟩

end Google
end Geo
end Audience
