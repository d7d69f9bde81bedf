import Audience.Json

/-!
# Records in JSON

A record is written as an object with one field for each of its parts, or as a list of its
parts in order.  Fields that the record does not have are skipped; a part that is given
twice makes the record invalid, and so do missing and surplus items of a list.
-/

namespace Audience
namespace Json

inductive Part where
  /-- Not given in an object, or left out at the end of a list that allows it. -/
  | missing
  | given (value : Json)

def Part.orDefault (default : Json) : Part -> Json
  | .missing => default
  | .given value => value

def Part.required? : Part -> Option Json
  | .missing => none
  | .given value => some value

/-- The part of an object with one name; it may not be given twice. -/
def partNamed? (fields : List (Option String × Json)) (name : String) : Option Part :=
  match fields.filter fun field => field.1 == some name with
  | [] => some .missing
  | [field] => some (.given field.2)
  | _ => none

/-- The parts of a record in the order of their names.  `optionalTail` tells whether the
items at the end of a list may be left out. -/
def parts? (names : List String) (optionalTail : Bool) : Json -> Option (List Part)
  | object fields =>
      if fields.any fun field => field.1.isNone then none
      else names.mapM (partNamed? fields)
  | list items =>
      if names.length < items.length then none
      else if items.length < names.length && !optionalTail then none
      else
        some (items.map Part.given ++ List.replicate (names.length - items.length) Part.missing)
  | _ => none

def text? : Json -> Option String
  | text s => some s
  | _ => none

def items? : Json -> Option (List Json)
  | list items => some items
  | _ => none

def number? : Json -> Option Float
  | integer n => some (if n < 0 then -(Float.ofNat n.natAbs) else Float.ofNat n.natAbs)
  | float x => some x
  | _ => none

def optionalNumber? : Json -> Option (Option Float)
  | null => some none
  | value => value.number?.map some

end Json
end Audience
