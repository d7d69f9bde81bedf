import Audience.Compiler
import Audience.Text.Integer
import Audience.Yaml.Node

/-!
# Settings documents

Settings are read from a mapping of names to values.  What it does not mention keeps its
default, and names that are no settings are skipped; a setting may be given only once.
-/

namespace Audience
namespace Settings

open Text Yaml

def digitsValue? (base : Nat) (digits : List Char) : Option Nat :=
  if digits.isEmpty then none
  else
    digits.foldl
      (fun n c =>
        match n, Yaml.hexValue? c with
        | some n, some d => if d < base then some (base * n + d) else none
        | _, _ => none)
      (some 0)

/-- The bases that a number may be written in, by what stands in front of the digits. -/
def bases : List (List Char × Nat) :=
  [(['0', 'x'], 16), (['0', 'o'], 8), (['0', 'b'], 2)]

def marked? (s : List Char) : Option Nat :=
  bases.findSome? fun (mark, base) =>
    if mark.isPrefixOf s then digitsValue? base (s.drop mark.length) else none

/-- Several digits that begin with a zero are no number. -/
def isPaddedNumber (s : List Char) : Bool :=
  match s with
  | '0' :: c :: rest => (c :: rest).all Char.isDigit
  | _ => false

def magnitude? (s : List Char) : Option Nat :=
  (marked? s).or (if isPaddedNumber s then none else natural? s)

def integer? (s : List Char) : Option Int :=
  match s with
  | '-' :: digits => (magnitude? digits).map fun n => -(n : Int)
  | '+' :: digits => (magnitude? digits).map fun n => (n : Int)
  | digits => (magnitude? digits).map fun n => (n : Int)

/-- A number that is not negative; a minus sign is refused even in front of zero. -/
def natural64? (s : List Char) : Option Nat :=
  let digits :=
    match s with
    | '+' :: digits => digits
    | digits => digits
  (magnitude? digits).filter (· < Number.twoTo 64)

def bool? (s : List Char) : Option Bool :=
  let word := String.ofList s
  if word == "true" || word == "True" || word == "TRUE" then some true
  else if word == "false" || word == "False" || word == "FALSE" then some false
  else none

def text? : Node -> Option String
  | .scalar _ _ text => some (String.ofList text)
  | _ => none

/-- The characters of a scalar that may be something else than a text: a plain one, or a
literal one with the tag of the type. -/
def typed? (type : String) : Node -> Option (List Char)
  | .scalar .plain _ text => some text
  | .scalar .literal (some tag) text =>
      if tag == ("tag:yaml.org,2002:" ++ type).toList then some text else none
  | _ => none

/-- The value of a setting among some pairs, or its default; none if it is given twice or
makes no sense. -/
def settingOf? {α : Type} (pairs : List (String × Node)) (name : String) (default : α)
    (read : Node -> Option α) : Option α :=
  match pairs.filter fun pair => pair.1 == name with
  | [] => some default
  | [pair] => read pair.2
  | _ => none

def ofPairs? (pairs : List (String × Node)) : Option Settings := do
  let default : Settings := {}
  return {
    subscribedStatus :=
      ← settingOf? pairs "subscribed_status" default.subscribedStatus text?
    placeholder := ← settingOf? pairs "placeholder" default.placeholder text?
    sentinelId :=
      ← settingOf? pairs "sentinel_id" default.sentinelId fun node =>
        ((typed? "int" node).bind integer?).filter inInt64
    reportColumns :=
      ← settingOf? pairs "report_columns" default.reportColumns fun node =>
        (typed? "bool" node).bind bool?
    httpTimeoutSecs :=
      ← settingOf? pairs "http_timeout_secs" default.httpTimeoutSecs fun node =>
        (typed? "int" node).bind natural64? }

def ofNode? : Node -> Option Settings
  | .mapping pairs => do
      ofPairs? (← pairs.mapM fun (key, value) => (text? key).map fun name => (name, value))
  | .scalar .plain _ [] => some {}
  | _ => none

def ofDocument? (content : String) : Option Settings := do
  match ← Yaml.read? content with
  | .nothing => return {}
  | .document node => ofNode? node

end Settings
end Audience
