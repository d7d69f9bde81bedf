import Audience.Geo.Box
import Audience.Http.Exchange

/-!
# Finding postal codes

A geocoder is a tree of providers: a fallback asks its second part only when the first one
fails.  A lookup tells which requests were sent on the way.
-/

namespace Audience
namespace Geo

inductive GeocodeError where
  /-- The provider knows no such place. -/
  | noResult (provider postalCode : String)
  /-- The provider's answer makes no sense. -/
  | malformed (provider detail : String)
  /-- The provider could not be asked. -/
  | transport (provider source : String)
  deriving DecidableEq, Repr

def GeocodeError.message : GeocodeError -> String
  | .noResult provider postalCode =>
      "Provider '" ++ provider ++ "' returned no usable result for '" ++ postalCode ++ "'"
  | .malformed provider detail =>
      "Provider '" ++ provider ++ "' returned a malformed response: " ++ detail
  | .transport provider source => "Provider '" ++ provider ++ "' request failed: " ++ source

/-- The outcome of looking up a postal code, and the requests sent for it in order. -/
structure Lookup where
  requests : List Http.Request
  outcome : Except GeocodeError Coordinates

structure Provider where
  name : String
  lookup : String -> Lookup

inductive Geocoder where
  | provider (provider : Provider)
  | fallback (primary secondary : Geocoder)

namespace Geocoder

def name : Geocoder -> String
  | provider p => p.name
  | fallback _ _ => "fallback"

def lookup (postalCode : String) : Geocoder -> Lookup
  | provider p => p.lookup postalCode
  | fallback primary secondary =>
      let first := primary.lookup postalCode
      match first.outcome with
      | .ok _ => first
      | .error _ =>
          let second := secondary.lookup postalCode
          ⟨first.requests ++ second.requests, second.outcome⟩

def resolve (geocoder : Geocoder) (postalCode : String) : Except GeocodeError Coordinates :=
  (geocoder.lookup postalCode).outcome

end Geocoder

namespace Provider

/-- A fixed table of postal codes; of equal codes the last one counts. -/
def table (entries : List (String × Coordinates)) : Provider where
  name := "static"
  lookup postalCode :=
    let found := entries.filter fun entry => entry.1 == postalCode
    match found.getLast? with
    | some entry => ⟨[], .ok entry.2⟩
    | none => ⟨[], .error (.noResult "static" postalCode)⟩

def failing (name : String) (cause : String -> GeocodeError) : Provider where
  name := name
  lookup postalCode := ⟨[], .error (cause postalCode)⟩

end Provider
end Geo
end Audience
