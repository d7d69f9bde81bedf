import Audience.Proofs.DigestTexts
import Audience.Proofs.ObjectFields
import Audience.Proofs.PostedPaths
import Audience.Proofs.ServiceResponses
import Audience.Proofs.Stages

/-!
# Reports that are handed over

## Courses

A computation that may fail adds requests to those that were sent before, and comes to an
outcome that does not depend on them.
-/

namespace Audience
namespace Report
namespace ActionKit

variable {α β : Type} {x : ExceptT ServiceError (StateM (List Http.Request)) α}
  {f : α -> ExceptT ServiceError (StateM (List Http.Request)) β} {requests : List Http.Request}

variable {network : Http.Network} {account : Account}

def answer (network : Http.Network) (account : Account) (path : String) (body : Json) :
    Except ServiceError String :=
  match request? account path body with
  | none => .error (.unanswered path)
  | some request =>
      match network request with
      | none => .error (.unanswered path)
      | some response => locationOf path response

def created (name location : String) : Except ServiceError Created :=
  match (lastPart? location).bind fun part => Text.int64? part.toList with
  | some id => .ok ⟨id, name⟩
  | none => .error (.noReportId location)

structure IsPosted (account : Account) (path : String) (body : Json) (request : Http.Request) :
    Prop where
  asked : request? account path body = some request
  method : request.method = "POST"
  body : request.body = some body
  path : '?' ∉ account.base.toList -> '#' ∉ account.base.toList ->
    path.toList <:+ request.target.path ∧ request.target.query = none

structure IsRunBody (notify : String) (payload : Option Json) (body : Json) : Prop where
  wellNamed : exists fields, body = .object fields ∧ Json.WellNamed fields
  fields : forall name, body.field? name =
    (payload.bind (Json.field? name)).or
      ((Json.ofFields [("format", .text "csv"), ("email_to", .text notify)]).field? name)

theorem isRunBody_runBody (notify : String) (payload : Option Json) :
    IsRunBody notify payload (runBody notify payload) := by
  have hown : Json.WellNamed [(some "format", .text "csv"), (some "email_to", .text notify)] :=
    ⟨by simp, by simp⟩
  rcases payload with _ | payload
  · exact ⟨⟨_, rfl, hown⟩, fun _ => rfl⟩
  · cases payload with
    | object extra =>
        exact ⟨⟨_, rfl, Json.wellNamed_putFields hown extra⟩, Json.field?_putFields hown extra⟩
    | _ =>
        exact ⟨⟨_, rfl, hown⟩, fun _ => rfl⟩

/-- Only the request for a run asks for a format, so no network takes one for the other. -/
theorem IsPosted.ne {path other statement description name notify : String}
    {payload : Option Json} {create run : Http.Request}
    (hcreate : IsPosted account path (createBody statement description name) create)
    (hrun : IsPosted account other (runBody notify payload) run) : create ≠ run := by
  intro h
  have hbody : createBody statement description name = runBody notify payload :=
    Option.some_inj.mp (hcreate.body.symm.trans (h ▸ hrun.body))
  have hformat := (isRunBody_runBody notify payload).fields "format"
  rw [← hbody] at hformat
  rcases hvalue : payload.bind (Json.field? "format") with _ | value
  · rw [hvalue] at hformat
    cases hformat
  · rw [hvalue] at hformat
    cases hformat

section

variable {compiled : CompiledQuery} {notify : String} {payload : Option Json}
  {time : Time.Timestamp} {create run : Http.Request}

variable
  (hcreate : request? account createPath (createBody compiled.template compiled.description
    (slug compiled.template time)) = some create)
  (hrun : request? account (runPath (slug compiled.template time)) (runBody notify payload) =
    some run)

include hcreate

include hrun

end

def newYear : Time.Timestamp :=
  .midnight ⟨2024, 1, 1, by decide⟩

end ActionKit
end Report
end Audience
