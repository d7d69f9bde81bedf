import Audience.Compiler

/-!
# The stages of a compilation

## Steps that may fail

A request is turned into a plan in stages, and each of them may fail.  What a plan is made
of once every stage has succeeded is collected in one record, so that a statement about a
plan need not open the stages again.
-/

namespace Audience

theorem bind_eq_ok {first : Except ε α} {next : α -> Except ε β} {result : β} :
    (first >>= next) = .ok result <->
      exists value, first = .ok value ∧ next value = .ok result := by
  cases first with
  | error cause =>
      constructor
      · intro h
        cases h
      · intro h
        rcases h with ⟨_, hfirst, _⟩
        cases hfirst
  | ok value =>
      constructor
      · intro h
        exact ⟨value, rfl, h⟩
      · intro h
        rcases h with ⟨_, hfirst, hnext⟩
        cases hfirst
        exact hnext

@[simp] theorem mapError_eq_ok {outcome : Except ε α} {wrap : ε -> δ} {result : α} :
    outcome.mapError wrap = .ok result <-> outcome = .ok result := by
  cases outcome with
  | error cause =>
      constructor
      · intro h
        cases h
      · intro h
        cases h
  | ok value =>
      constructor
      · intro h
        cases h
        rfl
      · intro h
        cases h
        rfl

namespace Compiler

/-- A compiler of the standard filters and kinds of columns that has nobody to ask. -/
def standalone (settings : Settings) : Compiler where
  catalog := .standard
  sources := ⟨.provider (.table []), .ofRecords []⟩
  columns := .ofColumns []
  extensions := .standard
  settings := settings
  backend := none
  modifier := none

/-!
## What a request consists of
-/

structure Parts where
  groups : List FilterGroup
  built : List (List BuiltItem)
  ids : Option Narrowing
  extensions : List Narrowing

/-- The stages in their order; the first that fails decides the error. -/
def parts (compiler : Compiler) (form : Form) : Except SearchError Parts := do
  let groups ← (FilterGroup.ofForm form compiler.catalog).mapError .request
  let built ← BuiltItem.ofGroups compiler.sources compiler.catalog groups
  let ids ← (idSearch? form).mapError .request
  let extensions ← compiler.extensionSearch form
  return ⟨groups, built, ids, extensions⟩

namespace Parts

/-- The searches in free text and for listed ids. -/
def overrides (parts : Parts) (form : Form) : List Narrowing :=
  (textSearch? form).toList ++ parts.ids.toList

/-- The plan before the guard, the modifier and the subscription are looked at. -/
def wanted (parts : Parts) (compiler : Compiler) (form : Form) : Plan :=
  let searched :=
    narrowed (Plan.baseline.filter (selectionOf parts.built)) (parts.overrides form)
  narrowed
    (if compiler.settings.reportColumns then searched.withColumns reportColumns else searched)
    parts.extensions

/-- What is left for the subscription to say. -/
def subscribed (compiler : Compiler) (form : Form) : List Narrowing :=
  if asksForAll form then [] else [subscription compiler.settings]

def modified (parts : Parts) (compiler : Compiler) (form : Form) : Plan :=
  match compiler.modifier with
  | some modify => modify (guarded (parts.wanted compiler form))
  | none => guarded (parts.wanted compiler form)

def assembled (parts : Parts) (compiler : Compiler) (form : Form) : Assembled where
  plan := (narrowed (parts.modified compiler form) (subscribed compiler form)).distinct
  description :=
    groupPhrase parts.built ++
      String.join
        ((parts.overrides form ++ parts.extensions ++ subscribed compiler form).map (·.line))

end Parts

theorem assemble_eq_map_parts (compiler : Compiler) (form : Form) :
    compiler.assemble form =
      (compiler.parts form).map fun parts => parts.assembled compiler form := by
  unfold assemble parts
  rcases (FilterGroup.ofForm form compiler.catalog).mapError SearchError.request with
    cause | groups
  · rfl
  simp only [bind, Except.bind]
  rcases BuiltItem.ofGroups compiler.sources compiler.catalog groups with cause | built
  · rfl
  rcases (idSearch? form).mapError SearchError.request with cause | ids
  · rfl
  rcases compiler.extensionSearch form with cause | extensions
  · rfl
  rfl

theorem parts_of_assemble {compiler : Compiler} {form : Form} {assembled : Assembled}
    (h : compiler.assemble form = .ok assembled) :
    exists parts, compiler.parts form = .ok parts ∧
      assembled = parts.assembled compiler form := by
  rw [assemble_eq_map_parts] at h
  cases hparts : compiler.parts form with
  | error cause =>
      rw [hparts] at h
      cases h
  | ok parts =>
      rw [hparts] at h
      exact ⟨parts, rfl, (Except.ok.inj h).symm⟩

theorem parts_eq_ok {compiler : Compiler} {form : Form} {parts : Parts}
    (h : compiler.parts form = .ok parts) :
    FilterGroup.ofForm form compiler.catalog = .ok parts.groups ∧
      BuiltItem.ofGroups compiler.sources compiler.catalog parts.groups = .ok parts.built ∧
      idSearch? form = .ok parts.ids ∧
      compiler.extensionSearch form = .ok parts.extensions := by
  unfold Compiler.parts at h
  rcases bind_eq_ok.mp h with ⟨groups, hgroups, h⟩
  rcases bind_eq_ok.mp h with ⟨built, hbuilt, h⟩
  rcases bind_eq_ok.mp h with ⟨ids, hids, h⟩
  rcases bind_eq_ok.mp h with ⟨extensions, hextensions, h⟩
  cases h
  exact ⟨mapError_eq_ok.mp hgroups, hbuilt, mapError_eq_ok.mp hids, hextensions⟩

end Compiler
end Audience
