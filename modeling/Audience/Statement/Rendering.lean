import Audience.Plan
import Audience.Statement.Condition
import Audience.Text.Case
import Audience.User

/-!
# Plans as statements

A plan becomes one statement that selects users in the order of their ids.  Which ids may
occur at all is left open, given as a list, or marked by a token that is replaced later.
-/

namespace Audience
namespace Statement

open Time

def userField (column : String) : Field :=
  ⟨userTable, column⟩

def ownedBy (table key : String) : Test :=
  .same ⟨table, key⟩ userId

def columnOperand : Column -> Operand
  | .language => .asTextOrEmpty (userField Column.language.sqlName)
  | column => .field (userField column.sqlName)

def fullNameOperand : Operand :=
  .spaced (userField "first_name") (userField "last_name")

def searchOperand : SearchText -> Operand
  | .fullName => fullNameOperand
  | .email => .field (userField "email")

def timeLiteral (time : Timestamp) : Literal :=
  .text time.sqlText

def sinceTests (table : String) (since : Option Timestamp) : List Test :=
  match since with
  | some bound => [.compare (.field ⟨table, "created_at"⟩) .gte (timeLiteral bound)]
  | none => []

/-!
# Lookups
-/

def locationLookup (box : Geo.Box) : Lookup where
  shown := .one
  table := "core_location"
  tests :=
    [ ownedBy "core_location" "user_id",
      .between ⟨"core_location", "latitude"⟩ (.float box.latMin) (.float box.latMax),
      .between ⟨"core_location", "longitude"⟩ (.float box.lonMin) (.float box.lonMax) ]

def valueTests (operand : Operand) (values : Option (List String)) : List Test :=
  match values with
  | some values => [.oneOf operand (values.map .text)]
  | none => []

def relatedLookup (relation : Relation) (values : Option (List String)) : Lookup :=
  match relation with
  | .actionPage =>
      { shown := .one
        table := "core_action"
        tests :=
          ownedBy "core_action" "user_id" ::
            valueTests (.asText ⟨"core_action", "page_id"⟩) values }
  | .actionPageTag =>
      { shown := .one
        table := "core_action"
        join :=
          some ("core_page_tags", ⟨"core_page_tags", "page_id"⟩, ⟨"core_action", "page_id"⟩)
        tests :=
          ownedBy "core_action" "user_id" ::
            valueTests (.asText ⟨"core_page_tags", "tag_id"⟩) values }
  | .userField name =>
      { shown := .one
        table := "core_userfield"
        tests :=
          ownedBy "core_userfield" "parent_id" ::
            .equals (.field ⟨"core_userfield", "name"⟩) (.text name) ::
            valueTests (.field ⟨"core_userfield", "value"⟩) values }
  | .phone =>
      { shown := .one
        table := "core_phone"
        tests :=
          ownedBy "core_phone" "user_id" ::
            valueTests (.field ⟨"core_phone", "normalized_phone"⟩) values }

def figureLookup (figure : Figure) (since : Option Timestamp) : Lookup :=
  let completed : List Test :=
    [ownedBy "core_order" "user_id",
      .equals (.field ⟨"core_order", "status"⟩) (.text completedStatus)]
  match figure with
  | .distinctOpens =>
      { shown := .count ⟨"core_open", "id"⟩
        table := "core_open"
        tests := ownedBy "core_open" "user_id" :: sinceTests "core_open" since }
  | .distinctActions =>
      { shown := .count ⟨"core_action", "id"⟩
        table := "core_action"
        tests := ownedBy "core_action" "user_id" :: sinceTests "core_action" since }
  | .completedTotal =>
      { shown := .sumOrZero ⟨"core_order", "total"⟩
        table := "core_order"
        tests := completed ++ sinceTests "core_order" since }
  | .completedCount =>
      { shown := .count ⟨"core_order", "id"⟩
        table := "core_order"
        tests := completed ++ sinceTests "core_order" since }

def phoneLookup : Lookup where
  shown := .field ⟨"core_phone", "normalized_phone"⟩
  table := "core_phone"
  tests := [ownedBy "core_phone" "user_id"]
  first := some ⟨"core_phone", "id"⟩

def fieldLookup (name : String) : Lookup where
  shown := .field ⟨"core_userfield", "value"⟩
  table := "core_userfield"
  tests :=
    [ ownedBy "core_userfield" "parent_id",
      .equals (.field ⟨"core_userfield", "name"⟩) (.text name) ]
  first := some ⟨"core_userfield", "id"⟩

/-!
# Predicates as conditions
-/

def boundLiteral : Bound -> Literal
  | .count n => .integer n
  | .amount d => .amount d

/-- Conditions joined from the left; the constant is the condition for no parts. -/
def chained (connective : Condition -> Condition -> Condition) (empty : Bool) :
    List Condition -> Condition
  | [] => .constant empty
  | first :: rest => rest.foldl connective first

mutual

def condition : Predicate -> Condition
  | .everyone => .constant true
  | .nobody => .constant false
  | .columnIn column values => .test (.oneOf (columnOperand column) (values.map .text))
  | .columnIs column value => .test (.equals (columnOperand column) (.text value))
  | .created comparison time =>
      .test (.compare (.field (userField "created_at")) comparison (timeLiteral time))
  | .within box => .exists (locationLookup box)
  | .related relation values => .exists (relatedLookup relation values)
  | .idIn [] => .constant false
  | .idIn (id :: ids) => .test (.oneOf (.field userId) ((id :: ids).map .integer))
  | .figure kind since comparison bound =>
      .figure (figureLookup kind since) comparison (boundLiteral bound)
  | .like target pattern =>
      .test (.like (.lower (searchOperand target)) (Text.lowered pattern))
  | .all parts => chained .and true (conditions parts)
  | .any parts => chained .or false (conditions parts)
  | .not inner => .not (condition inner)

def conditions : List Predicate -> List Condition
  | [] => []
  | p :: rest => condition p :: conditions rest

end

/-!
# Statements
-/

inductive IdSet where
  /-- All ids. -/
  | unbounded
  /-- A token that is replaced by the ids later. -/
  | placeholder (token : String)
  | literal (ids : List Int)
  deriving DecidableEq, Repr

def restrictionText (list : String) : String :=
  text (restrictionPieces list)

def idList (ids : List Int) : String :=
  String.intercalate ", " (ids.map toString)

def IdSet.condition? : IdSet -> Option Condition
  | unbounded => none
  | placeholder token => some (.restriction token)
  | literal [] => some (.constant false)
  | literal (id :: ids) => some (.restriction (idList (id :: ids)))

def outputPieces (column : OutputColumn) : List Piece :=
  let named (shown : List Piece) : List Piece :=
    shown ++ [.code " AS ", .name column.alias]
  match column with
  | .id => userId.pieces
  | .phone => named (parenthesized phoneLookup.pieces)
  | .fullName => named fullNameOperand.pieces
  | .userField name => named (parenthesized (fieldLookup name).pieces)

def fullCondition (p : Predicate) (ids : IdSet) : Condition :=
  match ids.condition? with
  | some restriction => .and (condition p) restriction
  | none => condition p

def pieces (plan : Plan) (ids : IdSet) : List Piece :=
  .code (if plan.isDistinct then "SELECT DISTINCT " else "SELECT ") ::
    joined ", " (plan.columns.map outputPieces) ++
    [.code " FROM ", .name userTable, .code " WHERE "] ++
    (fullCondition plan.selection ids).pieces ++
    .code " ORDER BY " :: userId.pieces ++ [.code " ASC"]

def render (plan : Plan) (ids : IdSet) : String :=
  text (pieces plan ids)

end Statement
end Audience
