import Audience.Error
import Audience.Statement.Rendering
import Audience.Text.Search

/-!
# Templates by capture

A backend may be able to report a statement only after it has run it.  The plan is then run
with an id that does not exist against a backend that refuses every statement with this id;
the statement is read back from the backend's log, and the id in the restriction is replaced
by the placeholder.  Nothing but the restriction is touched, and it must be there exactly
once.
-/

namespace Audience
namespace Statement

/-- What a backend does with a statement: what it writes to its log, if anything, and how
many rows it returns unless it refuses. -/
structure Reaction where
  recorded : Option String
  rows : Option Nat
  deriving DecidableEq, Repr

structure Backend where
  react : String -> Reaction

namespace Backend

/-- Records everything and refuses a statement that contains an id. -/
def rejecting (sentinel : Int) : Backend where
  react statement :=
    { recorded := some statement
      rows :=
        if Text.occurs (toString sentinel).toList statement.toList then none else some 0 }

def refusal (sentinel : Int) : String :=
  "refusing statement referencing sentinel id " ++ toString sentinel

def permissive (rows : Nat) : Backend where
  react statement := ⟨some statement, some rows⟩

def silent : Backend where
  react _ := ⟨none, none⟩

def altering (alter : String -> String) : Backend where
  react statement := ⟨some (alter statement), none⟩

def execute (backend : Backend) (log : List String) (statement : String) :
    Option Nat × List String :=
  let reaction := backend.react statement
  (reaction.rows, log ++ reaction.recorded.toList)

end Backend

def withPlaceholder (sentinel : Int) (placeholder captured : String) :
    Except CaptureError String :=
  let fragment := restrictionText (toString sentinel)
  let mark := fragment.toList
  match Text.occurrences mark captured.toList with
  | 0 => .error (.sentinelMissing fragment)
  | 1 =>
      .ok <| String.ofList <|
        Text.replaceAll mark (restrictionText placeholder).toList captured.toList
  | occurrences => .error (.ambiguousSentinel fragment occurrences)

def capture (sentinel : Int) (placeholder : String) (backend : Backend) (plan : Plan)
    (log : List String) : Except CaptureError String × List String :=
  match backend.execute log (render plan (.literal [sentinel])) with
  | (some rows, log) => (.error (.unexpectedSuccess rows), log)
  | (none, log) =>
      match log.getLast? with
      | none => (.error .noStatementRecorded, log)
      | some captured => (withPlaceholder sentinel placeholder captured, log)

end Statement
end Audience
