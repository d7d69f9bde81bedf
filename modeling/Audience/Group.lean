import Audience.Catalog
import Audience.Error
import Audience.Form
import Audience.Text.DecimalDigit
import Audience.Text.Integer

/-!
# Groups of filters

A form asks for groups of filters.  The key `include:n` lists the filters of group `n`.  The
values of a filter stand under its name behind the number of the group and an underscore;
the suffix `_istoggle` turns the filter round, and a companion follows behind two
underscores.  All of these keys may also begin with the whole marker of the group.

Filters without values are left out.  Groups come in the order in which their markers first
occur.
-/

namespace Audience

open Text

structure FilterItem where
  name : String
  values : List String
  /-- The users that meet the condition are wanted, not the others. -/
  included : Bool
  /-- The companions that are given, with their values. -/
  companions : List (String × String)
  deriving DecidableEq, Repr

def FilterItem.companion? (item : FilterItem) (name : String) : Option String :=
  item.companions.lookup name

/-- Filters all of which have to be met. -/
structure FilterGroup where
  key : String
  items : List FilterItem
  deriving DecidableEq, Repr

namespace FilterGroup

def marker : String := "include:"

def toggleSuffix : String := "_istoggle"

def number? (key : String) : Option String :=
  match dropStart? marker.toList key.toList with
  | some digits =>
      if !digits.isEmpty && digits.all isDecimalDigit then some (String.ofList digits) else none
  | none => none

/-- Whether a toggle includes; only a number other than one that is zero excludes. -/
def includes (raw : String) : Bool :=
  match int64? (trim raw.toList) with
  | some n => n != 0
  | none => true

/-- What the keys of a filter begin with: the number of the group if the filter has a key of
that kind, the whole marker if not. -/
def prefixOf (form : Form) (key number name : String) : String :=
  if form.has (number ++ "_" ++ name) then number else key

def companionsOf (form : Form) (start : String) (spec : FilterSpec) :
    List (String × String) :=
  spec.companions.filterMap fun companion =>
    (form.filled? (start ++ companionMark ++ companion)).map fun value => (companion, value)

/-- The filter listed under a name; none if it is a companion or has no values. -/
def item? (form : Form) (catalog : Catalog) (key number name : String) :
    Except RequestError (Option FilterItem) :=
  if catalog.isCompanion name then .ok none
  else
    let start := prefixOf form key number name ++ "_" ++ name
    let values := form.filledValues start
    if values.isEmpty then .ok none
    else
      match catalog.get? name with
      | none => .error (.unknownFilter name)
      | some spec =>
          .ok <| some
            { name := name
              values := values
              included := ((form.last? (start ++ toggleSuffix)).map includes).getD true
              companions := companionsOf form start spec }

def itemsOf (form : Form) (catalog : Catalog) (key number : String) :
    List String -> Except RequestError (List FilterItem)
  | [] => .ok []
  | name :: names => do
      let first ← item? form catalog key number name
      let rest ← itemsOf form catalog key number names
      return first.toList ++ rest

def listed? (form : Form) (key : String) : Option String :=
  match number? key, form.last? key with
  | some number, some last =>
      if last.isEmpty || endsWith toggleSuffix.toList last.toList then none else some number
  | _, _ => none

def ofKeys (form : Form) (catalog : Catalog) :
    List String -> Except RequestError (List FilterGroup)
  | [] => .ok []
  | key :: keys =>
      match listed? form key with
      | none => ofKeys form catalog keys
      | some number => do
          let items ← itemsOf form catalog key number (form.values key)
          let rest ← ofKeys form catalog keys
          return ⟨key, items⟩ :: rest

def ofForm (form : Form) (catalog : Catalog) : Except RequestError (List FilterGroup) :=
  ofKeys form catalog form.keys

end FilterGroup
end Audience
