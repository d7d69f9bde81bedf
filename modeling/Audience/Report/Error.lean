import Audience.Http.Exchange

/-!
# Failures of the reporting service

Why a report could not be created or run.
-/

namespace Audience
namespace Report

inductive ServiceError where
  /-- No response to a request for a path. -/
  | unanswered (path : String)
  /-- The response is not one of success. -/
  | refused (status : Nat) (path body : String)
  /-- The response does not say where the result is. -/
  | noLocation (path : String)
  /-- The place of a new report has no number at its end. -/
  | noReportId (location : String)
  /-- The place of a new task has no name at its end. -/
  | noTaskId (location : String)
  /-- Any other failure, in the words of the service. -/
  | failed (message : String)
  deriving DecidableEq, Repr

def shownBody : Nat := 200

def ServiceError.message : ServiceError -> String
  | unanswered path => "Failed to POST " ++ path
  | refused status path body =>
      "ActionKit API error " ++ Http.statusText status ++ " for " ++ path ++ ": " ++
        String.ofList (body.toList.take shownBody)
  | noLocation path => "ActionKit response for " ++ path ++ " has no Location header"
  | noReportId location => "Unexpected report location '" ++ location ++ "'"
  | noTaskId location => "Unexpected background task location '" ++ location ++ "'"
  | failed message => message

end Report
end Audience
