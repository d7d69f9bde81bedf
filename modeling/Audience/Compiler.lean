import Audience.BuiltItem
import Audience.Extension
import Audience.Plan
import Audience.Statement.Capture
import Audience.Text.Case

/-!
# Compiling requests

A request becomes a plan, a description in words, and a statement template.

The filters of a group are all to be met, and one of the groups.  The searched name or
email, the listed ids and the extension columns narrow the result further.  A request that
narrows nothing selects nobody.  At the end only subscribers are left, unless the request
asks for all users.

The settings shape a template but say nothing about a request; every setting has a default
that suits an installation without any of its own.
-/

namespace Audience

structure Settings where
  /-- The subscription status that users must have. -/
  subscribedStatus : String := "subscribed"
  /-- Stands for the ids in a template. -/
  placeholder : String := "\x7b\x7b user_ids \x7d\x7d"
  /-- An id that no user has. -/
  sentinelId : Int := -9999
  /-- Whether phone, name and profile fields are shown besides the id. -/
  reportColumns : Bool := true
  httpTimeoutSecs : Nat := 30
  deriving DecidableEq, Repr

structure CompiledQuery where
  description : String
  request : String
  /-- The statement with one placeholder for the ids. -/
  template : String
  deriving DecidableEq, Repr

structure Assembled where
  plan : Plan
  description : String

structure Compiler where
  catalog : Catalog
  sources : Sources
  columns : ColumnStore
  extensions : ExtensionRegistry
  settings : Settings
  /-- Reads templates back from this backend instead of writing them. -/
  backend : Option Statement.Backend
  /-- Changes the plan before the subscription is looked at. -/
  modifier : Option (Plan -> Plan)

structure Narrowing where
  predicate : Predicate
  line : String

namespace Compiler

/-!
# The groups of a request
-/

/-- The selection that groups ask for, which is everyone if no group narrows anything. -/
def selectionOf (groups : List (List BuiltItem)) : Predicate :=
  match groups.filter fun items => !BuiltItem.isIdle items with
  | [] => .everyone
  | groups => groups.foldl (fun p items => p.or (BuiltItem.conjunction items)) .nobody

def groupPhrase (groups : List (List BuiltItem)) : String :=
  String.intercalate "\n or "
    ((groups.filter fun items => !BuiltItem.isIdle items).map BuiltItem.conjunctionPhrase)

/-!
# Free text and listed ids
-/

/-- The pattern of a name: its words in order, with anything around them. -/
def namePattern (name : String) : String :=
  let words := Text.words name.toList
  String.ofList ('%' :: List.intercalate ['%'] words ++ ['%'])

def emailPattern (email : String) : String :=
  "%" ++ Text.trimmed email ++ "%"

def nameSearch? (form : Form) : Option Narrowing :=
  (form.filled? "user_name").map fun name =>
    ⟨.like .fullName (namePattern name), "\n and name is like \"" ++ name ++ "\""⟩

def emailSearch? (form : Form) : Option Narrowing :=
  (form.filled? "user_email").map fun email =>
    ⟨.like .email (emailPattern email), "\n and email is like \"" ++ email ++ "\""⟩

/-- Both searches together: a user may match either one. -/
def textSearch? (form : Form) : Option Narrowing :=
  match nameSearch? form, emailSearch? form with
  | some name, some email =>
      some ⟨name.predicate.or email.predicate, name.line ++ email.line⟩
  | some name, none => some name
  | none, some email => some email
  | none, none => none

def idSearch? (form : Form) : Except RequestError (Option Narrowing) :=
  match form.filled? "user_akid" with
  | none => .ok none
  | some raw => do
      let ids ← Entry.userIds raw
      return some ⟨.idIn ids, "\n and AKID is in [" ++ Statement.idList ids ++ "]"⟩

/-!
# Extension columns
-/

def extensionsOf (registry : ExtensionRegistry) :
    List ExtensionColumn -> Except RequestError (List Narrowing)
  | [] => .ok []
  | column :: columns => do
      let extension ← registry.load column
      let rest ← extensionsOf registry columns
      return ⟨extension.predicate, "\n and " ++ extension.phrase⟩ :: rest

/-- What the columns add that the request names; the catalog is not asked if there are
none. -/
def extensionSearch (compiler : Compiler) (form : Form) :
    Except SearchError (List Narrowing) :=
  match form.filledValues "column" with
  | [] => .ok []
  | names =>
      match compiler.columns.load names with
      | .error message => .error (.columnCatalog message)
      | .ok columns => (extensionsOf compiler.extensions columns).mapError .request

/-!
# Plans
-/

def reportColumns : List OutputColumn :=
  [ .phone, .fullName, .userField "campus", .userField "skills",
    .userField "engagement_level", .userField "affiliation" ]

/-- The request asks for users whatever their subscription: with any value but a blank, zero
or false. -/
def asksForAll (form : Form) : Bool :=
  match (form.last? "subscription_all_users").map fun raw => Text.trim raw.toList with
  | none => false
  | some value =>
      !(value.isEmpty || value == ['0'] ||
        Text.sameIgnoringAsciiCase value ['f', 'a', 'l', 's', 'e'])

def narrowed (plan : Plan) (narrowings : List Narrowing) : Plan :=
  narrowings.foldl (fun plan narrowing => plan.filter narrowing.predicate) plan

/-- A plan that selects nobody instead of everybody. -/
def guarded (plan : Plan) : Plan :=
  if plan.isBaseline then plan.none else plan

def subscription (settings : Settings) : Narrowing where
  predicate := .columnIs .subscriptionStatus settings.subscribedStatus
  line := "\n and subscription_status is '" ++ settings.subscribedStatus ++ "'"

def assemble (compiler : Compiler) (form : Form) : Except SearchError Assembled := do
  let groups ← (FilterGroup.ofForm form compiler.catalog).mapError .request
  let built ← BuiltItem.ofGroups compiler.sources compiler.catalog groups
  let ids ← (idSearch? form).mapError .request
  let extensions ← compiler.extensionSearch form
  let overrides := (textSearch? form).toList ++ ids.toList
  let subscribed := if asksForAll form then [] else [subscription compiler.settings]
  let searched := narrowed (Plan.baseline.filter (selectionOf built)) overrides
  let shown :=
    if compiler.settings.reportColumns then searched.withColumns reportColumns else searched
  let wanted := guarded (narrowed shown extensions)
  let modified :=
    match compiler.modifier with
    | some modify => modify wanted
    | none => wanted
  let lines := (overrides ++ extensions ++ subscribed).map (·.line)
  return {
    plan := (narrowed modified subscribed).distinct
    description := groupPhrase built ++ String.join lines }

/-!
# Templates
-/

def template (compiler : Compiler) (plan : Plan) (log : List String) :
    Except CaptureError String × List String :=
  let settings := compiler.settings
  match compiler.backend with
  | some backend =>
      Statement.capture settings.sentinelId settings.placeholder backend plan log
  | none => (.ok (Statement.render plan (.placeholder settings.placeholder)), log)

def compileForm (compiler : Compiler) (form : Form) (request : String)
    (log : List String) : Except SearchError CompiledQuery × List String :=
  match compiler.assemble form with
  | .error cause => (.error cause, log)
  | .ok assembled =>
      match compiler.template assembled.plan log with
      | (.error cause, log) => (.error (.capture cause), log)
      | (.ok template, log) => (.ok ⟨assembled.description, request, template⟩, log)

def compile (compiler : Compiler) (query : String) (log : List String) :
    Except SearchError CompiledQuery × List String :=
  compiler.compileForm (.ofQuery query) query log

def compileFields (compiler : Compiler) (form : Form) (log : List String) :
    Except SearchError CompiledQuery × List String :=
  compiler.compileForm form form.toQuery log

end Compiler
end Audience
