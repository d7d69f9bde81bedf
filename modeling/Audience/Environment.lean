import Audience.Compiler
import Audience.Geo.GeoNames
import Audience.Geo.Google
import Audience.Text.Blank

/-!
# The environment

Where a program finds the services it asks: keys and accounts are taken from environment
variables, the settings of the compiler from a file that a variable names.  A variable that
is blank counts as missing.
-/

namespace Audience

structure ReportingAccount where
  baseUrl : String
  username : String
  password : String
  deriving DecidableEq, Repr

structure Environment where
  googleKey : Option String
  geonamesUsername : Option String
  /-- Given only if all three parts of it are. -/
  reporting : Option ReportingAccount
  settings : Settings
  deriving DecidableEq, Repr

inductive SettingsError where
  | unreadable (path : String)
  | malformed
  deriving DecidableEq, Repr

def SettingsError.message : SettingsError -> String
  | unreadable path => "Failed to read compiler config " ++ path
  | malformed => "Failed to parse compiler config"

namespace Environment

/-- A variable that is set and not blank. -/
def given? (vars : List (String × String)) (name : String) : Option String :=
  (vars.lookup name).filter fun value => !Text.blank value

def settingsOf (vars : List (String × String)) (file : String -> Option String)
    (read : String -> Option Settings) : Except SettingsError Settings :=
  match given? vars "USERSEARCH_COMPILER_CONFIG" with
  | none => .ok {}
  | some path =>
      match file path with
      | none => .error (.unreadable path)
      | some content =>
          match read content with
          | some settings => .ok settings
          | none => .error .malformed

def reportingOf (vars : List (String × String)) : Option ReportingAccount := do
  return {
    baseUrl := ← given? vars "ACTIONKIT_BASE_URL"
    username := ← given? vars "ACTIONKIT_USERNAME"
    password := ← given? vars "ACTIONKIT_PASSWORD" }

def ofVariables (vars : List (String × String)) (file : String -> Option String)
    (read : String -> Option Settings) : Except SettingsError Environment := do
  let settings ← settingsOf vars file read
  return {
    googleKey := given? vars "GOOGLE_GEOCODE_API_KEY"
    geonamesUsername := given? vars "GEONAMES_API_USERNAME"
    reporting := reportingOf vars
    settings := settings }

def googlePath : String := "/maps/api/geocode/json"

def geonamesPath : String := "/postalCodeSearchJSON"

/-- Google's geocoder, with GeoNames behind it if a user of GeoNames is known. -/
def geocoder (environment : Environment) (network : Http.Network) : Geo.Geocoder :=
  let google :=
    Geo.Google.provider network (Http.Target.ofText? googlePath) environment.googleKey
  match environment.geonamesUsername with
  | none => .provider google
  | some username =>
      .fallback (.provider google)
        (.provider
          (Geo.GeoNames.provider network (Http.Target.ofText? geonamesPath) username))

end Environment
end Audience
