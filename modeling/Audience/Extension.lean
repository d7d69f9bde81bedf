import Audience.Error
import Audience.Predicate
import Audience.Text.Blank
import Audience.Text.Quoted
import Audience.Text.Split

/-!
# Extension columns

Further filters that administrators set up.  A column of the catalog names a kind, and the
registry makes a condition of it.
-/

namespace Audience

open Text

structure ExtensionColumn where
  id : Int
  name : String
  displayName : String
  kind : String
  parameters : String
  deriving DecidableEq, Repr

structure Extension where
  predicate : Predicate
  phrase : String

def ExtensionFactory : Type :=
  ExtensionColumn -> Except RequestError Extension

namespace ExtensionColumn

def invalidParameters (column : ExtensionColumn) : RequestError :=
  .invalidColumnParameters column.name column.parameters

def extension (column : ExtensionColumn) (predicate : Predicate) : Extension :=
  ⟨predicate, column.displayName⟩

/-- The parameters without the blanks around them, of which there must be some. -/
def parameter (column : ExtensionColumn) : Except RequestError (List Char) :=
  let parameter := trim column.parameters.toList
  if parameter.isEmpty then .error column.invalidParameters else .ok parameter

def userFieldPresent : ExtensionFactory := fun column => do
  let field ← column.parameter
  return column.extension (.related (.userField (String.ofList field)) none)

def userFieldEquals : ExtensionFactory := fun column => do
  let parameter ← column.parameter
  match cutAt? ['='] parameter with
  | none => .error column.invalidParameters
  | some (field, value) =>
      if (trim field).isEmpty then .error column.invalidParameters
      else
        return column.extension
          (.related (.userField (String.ofList (trim field))) (some [String.ofList (trim value)]))

def hasPhone : ExtensionFactory := fun column =>
  .ok (column.extension (.related .phone none))

def fixed (predicate : Predicate) : ExtensionFactory := fun column =>
  .ok (column.extension predicate)

end ExtensionColumn

/-- The kinds of columns and what is made of them; the first entry of a kind counts. -/
structure ExtensionRegistry where
  factories : List (String × ExtensionFactory)

namespace ExtensionRegistry

def empty : ExtensionRegistry := ⟨[]⟩

def standard : ExtensionRegistry where
  factories :=
    [ ("user_field_present", ExtensionColumn.userFieldPresent),
      ("user_field_equals", ExtensionColumn.userFieldEquals),
      ("has_phone", ExtensionColumn.hasPhone) ]

/-- Adds a kind, in place of an older one of the same name. -/
def register (registry : ExtensionRegistry) (kind : String) (factory : ExtensionFactory) :
    ExtensionRegistry :=
  ⟨(kind, factory) :: registry.factories⟩

def load (registry : ExtensionRegistry) (column : ExtensionColumn) :
    Except RequestError Extension :=
  match registry.factories.lookup column.kind with
  | some factory => factory column
  | none => .error (.unknownColumnKind column.name column.kind)

def kinds (registry : ExtensionRegistry) : List String :=
  ((registry.factories.map Prod.fst).mergeSort fun a b => a <= b).eraseDups

def shown (registry : ExtensionRegistry) : String :=
  "ExtensionRegistry \x7b kinds: [" ++
    String.intercalate ", " (registry.kinds.map quoted) ++ "] \x7d"

end ExtensionRegistry

structure ColumnStore where
  load : List String -> Except String (List ExtensionColumn)

namespace ColumnStore

/-- A catalog of columns in the order of their ids. -/
def ofColumns (columns : List ExtensionColumn) : ColumnStore where
  load names :=
    .ok ((columns.mergeSort fun a b => a.id <= b.id).filter fun column =>
      names.contains column.name)

def failing (message : String) : ColumnStore where
  load _ := .error message

end ColumnStore
end Audience
