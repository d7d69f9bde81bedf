import Audience.Http.Exchange
import Audience.Report.Service
import Audience.Text.Integer

/-!
# The reporting service of ActionKit

Reports are created and run through a web interface.  A response of success names what was
made in its location, whose last part is the number of the report or the name of the task.
-/

namespace Audience
namespace Report
namespace ActionKit

structure Account where
  /-- The part of the address behind the host, in front of the paths of the service. -/
  base : String
  username : String
  password : String
  deriving DecidableEq, Repr

def createPath : String := "/rest/v1/queryreport/"

def runPath (shortName : String) : String :=
  "/rest/v1/report/background/" ++ shortName ++ "/"

def withoutSlashes (s : List Char) : List Char :=
  (s.reverse.dropWhile (· == '/')).reverse

def lastPart? (location : String) : Option String :=
  let part :=
    ((withoutSlashes location.toList).reverse.takeWhile (· != '/')).reverse
  if part.isEmpty then none else some (String.ofList part)

def request? (account : Account) (path : String) (body : Json) : Option Http.Request :=
  let base := String.ofList (withoutSlashes account.base.toList)
  (Http.Target.ofText? (base ++ path)).map fun target =>
    { method := "POST"
      target := target
      accept := "application/json"
      authorization := some (Http.basicAuthorization account.username account.password)
      contentType := some "application/json"
      body := some body }

def locationOf (path : String) (response : Http.Response) : Except ServiceError String :=
  if Http.isSuccess response.status then
    match response.location.bind Http.headerText? with
    | some location => .ok location
    | none => .error (.noLocation path)
  else
    .error (.refused response.status path response.text)

/-- Posts a value to a path, and tells where the outcome is.  The request is recorded. -/
def post (network : Http.Network) (account : Account) (path : String) (body : Json) :
    ExceptT ServiceError (StateM (List Http.Request)) String := do
  match request? account path body with
  | none => throw (.unanswered path)
  | some request =>
      modify (· ++ [request])
      match network request with
      | none => throw (.unanswered path)
      | some response => ExceptT.mk (pure (locationOf path response))

def createBody (statement description identifier : String) : Json :=
  .ofFields
    [ ("name", .text identifier), ("short_name", .text identifier),
      ("description", .text description), ("sql", .text statement) ]

/-- The body of a request for a run.  Fields of the payload are added and take precedence; a
payload that is no object adds nothing. -/
def runBody (notify : String) (payload : Option Json) : Json :=
  let fields : List (Option String × Json) :=
    [(some "format", .text "csv"), (some "email_to", .text notify)]
  match payload with
  | some (.object extra) =>
      .object <| extra.foldl
        (fun fields field =>
          match field.1 with
          | some name => Json.setField name field.2 fields
          | none => fields)
        fields
  | _ => .object fields

def service (network : Http.Network) (account : Account) : Service (List Http.Request) where
  create statement description identifier := do
    let location ← post network account createPath
      (createBody statement description identifier)
    match (lastPart? location).bind fun part => Text.int64? part.toList with
    | some id => return ⟨id, identifier⟩
    | none => throw (.noReportId location)
  run report notify payload := do
    let location ← post network account (runPath report.shortName) (runBody notify payload)
    match lastPart? location with
    | some part => return part
    | none => throw (.noTaskId location)

end ActionKit
end Report
end Audience
