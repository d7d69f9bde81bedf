import Audience.Form.Encoding
import Audience.Text.Split

/-!
# Submitted forms

A form is the ordered list of its fields.  A key may occur any number of times; every
value is kept, and where a single value is asked for the last one counts.

## Query text

A form is read from text such as `a=1&a=2&b=x` and written back to it.  Empty segments
between ampersands carry no field, and one question mark in front is ignored.
-/

namespace Audience

structure Form where
  pairs : List (String × String)
  deriving DecidableEq, Repr

namespace Form

open Text

/-- The field written in one segment: the key up to the first equals sign, the value
behind it. -/
def fieldOf (segment : List Char) : String × String :=
  match cutAt? ['='] segment with
  | some (key, value) => (String.ofList (decode key), String.ofList (decode value))
  | none => (String.ofList (decode segment), "")

def segmentOf (field : String × String) : List Char :=
  encode field.1.toList ++ '=' :: encode field.2.toList

def withoutMark : List Char -> List Char
  | '?' :: rest => rest
  | text => text

def ofQuery (text : String) : Form :=
  ⟨((splitOn '&' (withoutMark text.toList)).filter (fun part => !part.isEmpty)).map fieldOf⟩

def toQuery (form : Form) : String :=
  String.ofList (List.intercalate ['&'] (form.pairs.map segmentOf))

/-!
# Looking up fields
-/

/-- The distinct keys in the order of their first occurrence. -/
def keys (form : Form) : List String :=
  (form.pairs.map Prod.fst).eraseDups

def values (form : Form) (key : String) : List String :=
  (form.pairs.filter fun field => field.1 == key).map Prod.snd

def last? (form : Form) (key : String) : Option String :=
  (form.values key).getLast?

def filled? (form : Form) (key : String) : Option String :=
  (form.last? key).filter fun value => !blank value

def filledValues (form : Form) (key : String) : List String :=
  (form.values key).filter fun value => !blank value

def has (form : Form) (key : String) : Bool :=
  form.pairs.any fun field => field.1 == key

def isEmpty (form : Form) : Bool :=
  form.pairs.isEmpty

end Form
end Audience
