import Audience.Compiler
import Audience.Json
import Audience.Report.Digest
import Audience.Report.Error
import Audience.Text.Utf8

/-!
# Reports

A compiled query is handed to a reporting service: a report is created under a name made of
the template and the time, and a run of it is queued.  A service may keep a state, and every
failure ends the hand-over.
-/

namespace Audience
namespace Report

open Time

structure Created where
  id : Int
  shortName : String
  deriving DecidableEq, Repr

structure Service (state : Type) where
  /-- Creates a report from a statement, a description and a name. -/
  create : String -> String -> String -> ExceptT ServiceError (StateM state) Created
  /-- Queues a run of a report with an address to notify and perhaps further data, and
  names the task. -/
  run : Created -> String -> Option Json -> ExceptT ServiceError (StateM state) String

structure Receipt where
  reportId : Int
  shortName : String
  taskId : String
  deriving DecidableEq, Repr

/-- The name of a report: the digest of the template with the time behind it. -/
def slug (template : String) (time : Timestamp) : String :=
  String.ofList <| Digest.hex <| Digest.sha256 <|
    Text.bytesOf (template.toList ++ time.microsText.toList)

def dispatch {state : Type} (service : Service state) (compiled : CompiledQuery)
    (notify : String) (payload : Option Json) (time : Timestamp) :
    ExceptT ServiceError (StateM state) Receipt := do
  let report ← service.create compiled.template compiled.description
    (slug compiled.template time)
  let taskId ← service.run report notify payload
  return ⟨report.id, report.shortName, taskId⟩

/-!
# A service that keeps records
-/

inductive Call where
  | create (statement description identifier : String)
  | run (shortName notify : String) (payload : Option Json)

/-- A service that records its calls and numbers its answers by them.  A message makes the
respective call fail before it is recorded. -/
def recording (failCreate failRun : Option String) : Service (List Call) where
  create statement description identifier := do
    match failCreate with
    | some message => throw (.failed message)
    | none =>
        let calls := (← get) ++ [.create statement description identifier]
        set calls
        return ⟨calls.length, identifier⟩
  run report notify payload := do
    match failRun with
    | some message => throw (.failed message)
    | none =>
        let calls := (← get) ++ [.run report.shortName notify payload]
        set calls
        return "task-" ++ toString calls.length

end Report
end Audience
