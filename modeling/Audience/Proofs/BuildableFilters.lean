import Audience.Proofs.ReadFilters

/-!
# Filters that can be built

## Kinds of errors

The steps behind the reading of a form check again that a filter is known and has a value.
No filter that has been read fails these checks.  What is left to go wrong with it is what
was entered, or whoever is asked about it.
-/

namespace Audience

def FailsOnly (errors : ε -> Prop) (outcome : Except ε α) : Prop :=
  forall cause, outcome = .error cause -> errors cause

section

variable {errors : ε -> Prop}

theorem failsOnly_ok (value : α) : FailsOnly errors (.ok value) := by
  intro cause h
  cases h

theorem failsOnly_error {cause : ε} (h : errors cause) :
    FailsOnly errors (.error cause : Except ε α) := by
  intro _ h
  rcases h with ⟨⟩
  exact h

theorem FailsOnly.bind {first : Except ε α} {next : α -> Except ε β}
    (hfirst : FailsOnly errors first) (hnext : forall value, FailsOnly errors (next value)) :
    FailsOnly errors (first >>= next) := by
  intro cause h
  rcases bind_eq_error.mp h with hcause | ⟨value, _, hcause⟩
  · exact hfirst cause hcause
  · exact hnext value cause hcause

theorem FailsOnly.map {outcome : Except ε α} (h : FailsOnly errors outcome) (make : α -> β) :
    FailsOnly errors (outcome.map make) := fun cause hcause => h cause (map_eq_error.mp hcause)

theorem FailsOnly.mapError {outcome : Except ε α} (h : FailsOnly errors outcome)
    {others : δ -> Prop} {wrap : ε -> δ}
    (hwrap : forall cause, errors cause -> others (wrap cause)) :
    FailsOnly others (outcome.mapError wrap) := by
  intro cause hcause
  rcases mapError_eq_error.mp hcause with ⟨inner, hinner, rfl⟩
  exact hwrap inner (h inner hinner)

theorem FailsOnly.imp {outcome : Except ε α} (h : FailsOnly errors outcome)
    {others : ε -> Prop} (himp : forall cause, errors cause -> others cause) :
    FailsOnly others outcome := fun cause hcause => himp cause (h cause hcause)

end

/-- The error is not that a filter is unknown or has no value. -/
def RequestError.SparesFilters : RequestError -> Prop
  | .unknownFilter _ => False
  | .missingValue _ => False
  | _ => True

def SearchError.SparesFilters : SearchError -> Prop
  | .request cause => cause.SparesFilters
  | _ => True

theorem FailsOnly.ofRequest {outcome : Except RequestError α}
    (h : FailsOnly RequestError.SparesFilters outcome) :
    FailsOnly SearchError.SparesFilters (outcome.mapError .request) :=
  h.mapError fun _ hcause => hcause

/-!
## Entries
-/

namespace Entry

open Text

theorem date_sparesFilters (filter raw : String) :
    FailsOnly RequestError.SparesFilters (date filter raw) := by
  unfold date
  split
  · exact failsOnly_ok _
  · exact failsOnly_error trivial

theorem count_sparesFilters (filter raw : String) :
    FailsOnly RequestError.SparesFilters (count filter raw) := by
  unfold count
  split
  · exact failsOnly_ok _
  · exact failsOnly_error trivial

theorem amount_sparesFilters (filter raw : String) :
    FailsOnly RequestError.SparesFilters (amount filter raw) := by
  unfold amount
  split
  · exact failsOnly_ok _
  · exact failsOnly_error trivial

theorem distance_sparesFilters (raw : String) :
    FailsOnly RequestError.SparesFilters (distance raw) := by
  unfold distance
  split
  · split
    · exact failsOnly_ok _
    · exact failsOnly_error trivial
  · exact failsOnly_error trivial

private theorem idsOf_sparesFilters (parts : List (List Char)) :
    FailsOnly RequestError.SparesFilters (idsOf parts) := by
  induction parts with
  | nil =>
      exact failsOnly_ok _
  | cons part parts ih =>
      unfold idsOf
      dsimp only
      split
      · exact ih
      · split
        · exact failsOnly_error trivial
        · exact ih.map _

theorem userIds_sparesFilters (raw : String) :
    FailsOnly RequestError.SparesFilters (userIds raw) := by
  unfold userIds
  split
  · exact failsOnly_error trivial
  · exact idsOf_sparesFilters _

end Entry

/-!
## Builders

A filter with a value passes the check for one.  Only a filter that looks its values up in a
field can still turn out to be unknown, which is when no field is declared for it.
-/

namespace BuiltItem

variable {item : FilterItem} {raw : String} {others : List String}

theorem firstValue_of_values (h : item.values = raw :: others) : firstValue item = .ok raw := by
  rw [firstValue, h]

theorem failsOnly_firstValue {errors : RequestError -> Prop}
    {next : String -> Except RequestError β} (hvalues : item.values ≠ [])
    (hnext : forall raw, FailsOnly errors (next raw)) :
    FailsOnly errors (firstValue item >>= next) := by
  rcases List.exists_cons_of_ne_nil hvalues with ⟨raw, others, h⟩
  rw [firstValue_of_values h]
  exact hnext raw

theorem failsOnly_mapError_firstValue {errors : SearchError -> Prop}
    {next : String -> Except SearchError β} (hvalues : item.values ≠ [])
    (hnext : forall raw, FailsOnly errors (next raw)) :
    FailsOnly errors ((firstValue item).mapError .request >>= next) := by
  rcases List.exists_cons_of_ne_nil hvalues with ⟨raw, others, h⟩
  rw [firstValue_of_values h]
  exact hnext raw

theorem companionDate_sparesFilters (item : FilterItem) (companion : String) :
    FailsOnly RequestError.SparesFilters (companionDate item companion) := by
  unfold companionDate
  split
  · exact (Entry.date_sparesFilters _ _).map _
  · exact failsOnly_ok _

theorem membership_failsOnly {spec : FilterSpec} (hvalues : item.values ≠ []) :
    FailsOnly (fun cause => cause = .unknownFilter spec.name ∧ spec.field = none)
      (membership spec item) := by
  unfold membership
  refine failsOnly_firstValue hvalues fun raw => ?_
  dsimp only
  split
  · exact failsOnly_ok _
  · exact failsOnly_ok _
  · rename_i hfield
    exact failsOnly_error ⟨rfl, hfield⟩

theorem createdDate_sparesFilters (comparison : Comparison) (words : String)
    (hvalues : item.values ≠ []) :
    FailsOnly RequestError.SparesFilters (createdDate comparison words item) := by
  unfold createdDate
  refine failsOnly_firstValue hvalues fun raw => ?_
  exact (Entry.date_sparesFilters _ _).bind fun time => failsOnly_ok _

private theorem radiusBox_sparesFilters (geocoder : Geo.Geocoder)
    (postalCode rawDistance : String) :
    FailsOnly SearchError.SparesFilters (radiusBox geocoder postalCode rawDistance) := by
  have hcenter : FailsOnly SearchError.SparesFilters
      ((geocoder.resolve postalCode).mapError (geocodeError postalCode)) := by
    intro cause h
    rcases mapError_eq_error.mp h with ⟨inner, _, rfl⟩
    cases inner <;> trivial
  unfold radiusBox
  refine (Entry.distance_sparesFilters rawDistance).ofRequest.bind fun miles =>
    hcenter.bind fun center => ?_
  dsimp only
  split
  · exact failsOnly_error trivial
  · exact failsOnly_ok _

theorem postalRadius_sparesFilters (geocoder : Geo.Geocoder) (hvalues : item.values ≠ []) :
    FailsOnly SearchError.SparesFilters (postalRadius geocoder item) := by
  unfold postalRadius
  refine failsOnly_mapError_firstValue hvalues fun raw => ?_
  dsimp only
  split
  · exact failsOnly_ok _
  · exact (radiusBox_sparesFilters geocoder _ _).bind fun box => failsOnly_ok _

theorem contacted_sparesFilters (log : ContactLog) (criteria : ContactCriteria) :
    FailsOnly SearchError.SparesFilters (contacted log criteria) := by
  unfold contacted
  split
  · exact failsOnly_ok _
  · exact failsOnly_error trivial

theorem contactedSince_sparesFilters (log : ContactLog) (hvalues : item.values ≠ []) :
    FailsOnly SearchError.SparesFilters (contactedSince log item) := by
  unfold contactedSince
  refine failsOnly_mapError_firstValue hvalues fun raw => ?_
  exact (Entry.date_sparesFilters _ _).ofRequest.bind fun since =>
    (contacted_sparesFilters log _).bind fun predicate => failsOnly_ok _

theorem contactedBy_sparesFilters (log : ContactLog) (hvalues : item.values ≠ []) :
    FailsOnly SearchError.SparesFilters (contactedBy log item) := by
  unfold contactedBy
  refine failsOnly_mapError_firstValue hvalues fun raw => ?_
  exact (companionDate_sparesFilters item _).ofRequest.bind fun since =>
    (contacted_sparesFilters log _).bind fun predicate => failsOnly_ok _

theorem counted_sparesFilters {make : Int -> Option Time.Timestamp -> BuiltItem}
    (hvalues : item.values ≠ []) :
    FailsOnly RequestError.SparesFilters
      (firstValue item >>= fun raw => Entry.count item.name raw >>= fun n =>
        companionDate item sinceCompanion >>= fun since => pure (make n since)) := by
  refine failsOnly_firstValue hvalues fun raw => ?_
  exact (Entry.count_sparesFilters _ _).bind fun n =>
    (companionDate_sparesFilters item _).bind fun since => failsOnly_ok _

private theorem donatedMore_sparesFilters (hvalues : item.values ≠ []) :
    FailsOnly RequestError.SparesFilters (donatedMore item) := by
  unfold donatedMore
  refine failsOnly_firstValue hvalues fun raw => ?_
  exact (Entry.amount_sparesFilters _ _).bind fun d =>
    (companionDate_sparesFilters item _).bind fun since => failsOnly_ok _

def HasNoField (spec : FilterSpec) : Prop :=
  spec.builder = .membership ∧ spec.field = none

theorem ofItem_failsOnly {sources : Sources} {spec : FilterSpec} (hvalues : item.values ≠ []) :
    FailsOnly (fun cause => cause.SparesFilters ∨
        cause = .request (.unknownFilter spec.name) ∧ HasNoField spec)
      (ofItem sources spec item) := by
  have hspares {outcome : Except SearchError BuiltItem}
      (h : FailsOnly SearchError.SparesFilters outcome) :
      FailsOnly (fun cause => cause.SparesFilters ∨
        cause = .request (.unknownFilter spec.name) ∧ HasNoField spec) outcome :=
    h.imp fun _ => Or.inl
  unfold ofItem
  cases hbuilder : spec.builder with
  | membership =>
      refine (membership_failsOnly hvalues).mapError ?_
      intro cause h
      rcases h with ⟨rfl, hfield⟩
      exact Or.inr ⟨rfl, hbuilder, hfield⟩
  | createdBefore =>
      exact hspares (createdDate_sparesFilters _ _ hvalues).ofRequest
  | createdAfter =>
      exact hspares (createdDate_sparesFilters _ _ hvalues).ofRequest
  | postalRadius =>
      exact hspares (postalRadius_sparesFilters _ hvalues)
  | contactedSince =>
      exact hspares (contactedSince_sparesFilters _ hvalues)
  | contactedBy =>
      exact hspares (contactedBy_sparesFilters _ hvalues)
  | emailsOpened =>
      exact hspares (counted_sparesFilters hvalues).ofRequest
  | moreActions =>
      exact hspares (counted_sparesFilters hvalues).ofRequest
  | donatedMore =>
      exact hspares (donatedMore_sparesFilters hvalues).ofRequest
  | donatedTimes =>
      exact hspares (counted_sparesFilters hvalues).ofRequest

end BuiltItem

/-!
## What the builders rely on
-/

namespace FilterItem

open FilterGroup

/-- The filter is listed by its group and known, its values are some of those submitted under
one of its keys, and its companions are declared.  Nothing of it is blank. -/
structure IsReadFrom (form : Form) (catalog : Catalog) (key : String) (item : FilterItem) :
    Prop where
  listed : item.name ∈ form.values key
  known :
    exists spec, catalog.get? item.name = some spec ∧
      forall companion value, (companion, value) ∈ item.companions ->
        companion ∈ spec.companions ∧ Text.blank value = false
  filled : item.values ≠ []
  notBlank : forall value, value ∈ item.values -> Text.blank value = false
  submitted :
    exists start number, number? key = some number ∧ (start = number ∨ start = key) ∧
      item.values.Sublist (form.values (keyUnder start item.name))

end FilterItem

namespace FilterGroup

variable {form : Form} {catalog : Catalog} {item : FilterItem}

private theorem mem_companionsOf {start : String} {spec : FilterSpec} {companion value : String}
    (h : (companion, value) ∈ companionsOf form start spec) :
    companion ∈ spec.companions ∧ Text.blank value = false := by
  rcases List.mem_filterMap.mp h with ⟨declared, hdeclared, hvalue⟩
  rcases Option.map_eq_some_iff.mp hvalue with ⟨found, hfound, heq⟩
  cases heq
  rcases Option.filter_eq_some_iff.mp hfound with ⟨_, hfilled⟩
  exact ⟨hdeclared, by simpa using hfilled⟩

private theorem isReadFrom_of_gives {listing : Listing} (hlisting : listing ∈ listings form)
    (h : listing.Gives form catalog item) : item.IsReadFrom form catalog listing.key := by
  rcases mem_listings_iff.mp hlisting with ⟨hlisted, hname⟩
  rcases h.known with ⟨spec, hspec, hcompanions⟩
  refine ⟨h.name ▸ hname, ⟨spec, hspec, ?_⟩, h.filled, ?_, ?_⟩
  · intro companion value hmem
    rw [hcompanions] at hmem
    exact mem_companionsOf hmem
  · intro value hvalue
    rw [h.values, Listing.filledValues, Form.filledValues, List.mem_filter] at hvalue
    simpa using hvalue.right
  · refine ⟨listing.start form, listing.number, (listed?_eq_some.mp hlisted).left, ?_, ?_⟩
    · rw [Listing.start, prefixOf_eq]
      split
      · exact Or.inl rfl
      · exact Or.inr rfl
    · rw [h.values, h.name]
      exact List.filter_sublist

theorem isReadFrom_of_mem {groups : List FilterGroup} {group : FilterGroup}
    (h : ofForm form catalog = .ok groups) (hgroup : group ∈ groups)
    (hitem : item ∈ group.items) : item.IsReadFrom form catalog group.key := by
  rcases exists_gives_of_mem h hgroup hitem with ⟨listing, hlisting, hkey, hgives⟩
  rw [← hkey]
  exact isReadFrom_of_gives hlisting hgives

end FilterGroup

/-!
## Columns

What a registered kind makes of a column is up to the kind.  The kinds that are always there
fail over nothing but the parameters of the column.
-/

namespace ExtensionRegistry

def SparesFilters (registry : ExtensionRegistry) : Prop :=
  forall kind factory, (kind, factory) ∈ registry.factories ->
    forall column, FailsOnly RequestError.SparesFilters (factory column)

theorem load_sparesFilters {registry : ExtensionRegistry} (h : registry.SparesFilters)
    (column : ExtensionColumn) :
    FailsOnly RequestError.SparesFilters (registry.load column) := by
  unfold load
  split
  · rename_i factory hfactory
    rcases List.lookup_eq_some_iff.mp hfactory with ⟨before, after, hfactories, _⟩
    apply h column.kind factory
    rw [hfactories]
    exact List.mem_append_right _ List.mem_cons_self
  · exact failsOnly_error trivial

private theorem parameter_sparesFilters (column : ExtensionColumn) :
    FailsOnly RequestError.SparesFilters column.parameter := by
  unfold ExtensionColumn.parameter
  dsimp only
  split
  · exact failsOnly_error trivial
  · exact failsOnly_ok _

theorem standard_sparesFilters : standard.SparesFilters := by
  intro kind factory hfactory column
  simp only [standard, List.mem_cons, Prod.mk.injEq, List.not_mem_nil, or_false] at hfactory
  rcases hfactory with ⟨_, rfl⟩ | ⟨_, rfl⟩ | ⟨_, rfl⟩
  · exact (parameter_sparesFilters column).bind fun field => failsOnly_ok _
  · refine (parameter_sparesFilters column).bind fun parameter => ?_
    split
    · exact failsOnly_error trivial
    · split
      · exact failsOnly_error trivial
      · exact failsOnly_ok _
  · exact failsOnly_ok _

end ExtensionRegistry

namespace Compiler

open FilterGroup

variable {compiler : Compiler} {form : Form} {log : List String} {request : String}

/-!
## Compilations that fail over a filter
-/

/-- A name is listed with values but is no filter, or a filter that looks its values up is
declared without a field. -/
inductive LacksFilter (compiler : Compiler) (form : Form) : String -> Prop where
  | unknown {listing : Listing} (hlisting : listing ∈ listings form)
      (hfilter : compiler.catalog.isCompanion listing.name = false)
      (hvalues : listing.filledValues form ≠ [])
      (hspec : compiler.catalog.get? listing.name = none) :
      LacksFilter compiler form listing.name
  | noField {groups : List FilterGroup} {group : FilterGroup} {item : FilterItem}
      {spec : FilterSpec} (hgroups : ofForm form compiler.catalog = .ok groups)
      (hgroup : group ∈ groups) (hitem : item ∈ group.items)
      (hspec : compiler.catalog.get? item.name = some spec)
      (hfield : BuiltItem.HasNoField spec) :
      LacksFilter compiler form item.name

def FailsOver (compiler : Compiler) (form : Form) (cause : RequestError) : Prop :=
  exists columns column, compiler.requestedColumns form = .ok columns ∧ column ∈ columns ∧
    compiler.extensions.load column = .error cause

private theorem build_failsOnly {sources : Sources} {groups : List FilterGroup} {item : FilterItem}
    (hgroups : ofForm form compiler.catalog = .ok groups)
    (hitem : item ∈ groups.flatMap (·.items)) :
    FailsOnly (fun cause => cause.SparesFilters ∨
        cause = .request (.unknownFilter item.name) ∧ compiler.LacksFilter form item.name)
      (BuiltItem.build sources compiler.catalog item) := by
  rcases List.mem_flatMap.mp hitem with ⟨group, hgroup, hitem⟩
  have hread := isReadFrom_of_mem hgroups hgroup hitem
  rcases hread.known with ⟨spec, hspec, _⟩
  rw [BuiltItem.build, hspec]
  refine (BuiltItem.ofItem_failsOnly hread.filled).imp ?_
  intro cause h
  rcases h with hspares | ⟨rfl, hfield⟩
  · exact Or.inl hspares
  · rw [(Catalog.mem_specs_of_get? hspec).right]
    exact Or.inr ⟨rfl, .noField hgroups hgroup hitem hspec hfield⟩

theorem compileForm_failsOnly :
    FailsOnly (fun cause => cause.SparesFilters ∨
        (exists name, cause = .request (.unknownFilter name) ∧ compiler.LacksFilter form name) ∨
        exists inner, cause = .request inner ∧ compiler.FailsOver form inner)
      (compiler.compileForm form request log).1 := by
  intro cause h
  cases compileForm_eq_error.mp h with
  | name hname =>
      rcases exists_listing_of_error (ofForm_eq_error.mpr hname) with
        ⟨listing, hlisting, hfilter, hvalues, hspec, rfl⟩
      exact Or.inr (Or.inl ⟨_, rfl, .unknown hlisting hfilter hvalues hspec⟩)
  | filter hgroups hfilter =>
      rcases hfilter with ⟨before, item, after, hitems, _, hfails⟩
      have hitem : item ∈ before ++ item :: after :=
        List.mem_append_right _ List.mem_cons_self
      rw [← hitems] at hitem
      rcases build_failsOnly hgroups hitem cause hfails with hspares | hlacks
      · exact Or.inl hspares
      · exact Or.inr (Or.inl ⟨_, hlacks⟩)
  | ids _ _ hids =>
      exact Or.inl (Entry.userIds_sparesFilters _ _ hids)
  | catalog _ _ _ =>
      exact Or.inl trivial
  | column _ _ hcolumns hcolumn =>
      rcases hcolumn with ⟨before, column, after, rfl, _, hfails⟩
      exact Or.inr (Or.inr ⟨_, rfl, _, column, hcolumns,
        List.mem_append_right _ List.mem_cons_self, hfails⟩)
  | template _ _ =>
      exact Or.inl trivial

theorem not_failsOver (h : compiler.extensions.SparesFilters) {cause : RequestError}
    (hcause : ¬ cause.SparesFilters) : ¬ compiler.FailsOver form cause := by
  intro h
  rcases h with ⟨_, column, _, _, hfails⟩
  exact hcause (ExtensionRegistry.load_sparesFilters h column cause hfails)

private theorem failsOver_of_missingValue {filter : String}
    (h : (compiler.compileForm form request log).1 = .error (.request (.missingValue filter))) :
    compiler.FailsOver form (.missingValue filter) := by
  rcases compileForm_failsOnly _ h with hspares | ⟨name, hname, _⟩ | ⟨inner, hinner, hfails⟩
  · exact hspares.elim
  · cases hname
  · cases hinner
    exact hfails

private theorem lacksFilter_of_unknownFilter {name : String}
    (h : (compiler.compileForm form request log).1 = .error (.request (.unknownFilter name))) :
    compiler.LacksFilter form name ∨ compiler.FailsOver form (.unknownFilter name) := by
  rcases compileForm_failsOnly _ h with hspares | ⟨found, hname, hlacks⟩ | ⟨inner, hinner, hfails⟩
  · exact hspares.elim
  · cases hname
    exact Or.inl hlacks
  · cases hinner
    exact Or.inr hfails

/--
Every filter that is read from a form can be built as far as the filter itself goes: it is
known, it has values, none of them is blank, and its companions are declared.  So no
compilation fails because a filter has no value, and one that fails because a filter is
unknown does so over a listed name with values that the catalog lacks, or over a filter that
looks its values up without a field.  The kinds of columns are taken at their word: only one
that itself makes such an error can bring it about otherwise.
-/
theorem read_filters_are_buildable (compiler : Compiler) (form : Form) (request : String)
    (log : List String) :
    (forall groups, ofForm form compiler.catalog = .ok groups ->
      forall group, group ∈ groups -> forall item, item ∈ group.items ->
        item.IsReadFrom form compiler.catalog group.key) ∧
    (forall filter,
      (compiler.compileForm form request log).1 = .error (.request (.missingValue filter)) ->
        compiler.FailsOver form (.missingValue filter)) ∧
    (forall name,
      (compiler.compileForm form request log).1 = .error (.request (.unknownFilter name)) ->
        compiler.LacksFilter form name ∨ compiler.FailsOver form (.unknownFilter name)) ∧
    (compiler.extensions.SparesFilters ->
      (forall filter,
        (compiler.compileForm form request log).1 ≠ .error (.request (.missingValue filter))) ∧
      forall name,
        (compiler.compileForm form request log).1 = .error (.request (.unknownFilter name)) ->
          compiler.LacksFilter form name) := by
  refine ⟨fun groups hgroups group hgroup item hitem => isReadFrom_of_mem hgroups hgroup hitem,
    fun filter => failsOver_of_missingValue, fun name => lacksFilter_of_unknownFilter, ?_⟩
  intro hspares
  constructor
  · intro filter h
    exact not_failsOver hspares id (failsOver_of_missingValue h)
  · intro name h
    rcases lacksFilter_of_unknownFilter h with hlacks | hfails
    · exact hlacks
    · exact absurd hfails (not_failsOver hspares id)

/-- A distance around a postal code with a blank date beside it, and a colour. -/
def colourNearby : Form :=
  ⟨[("include:1", "zipcode"), ("include:1_zipcode", " "), ("include:1_zipcode", "10001"),
    ("include:1_zipcode__distance", "25"), ("include:2", "emails_opened"),
    ("2_emails_opened", "3"), ("2_emails_opened__since", " "), ("include:3", "colour"),
    ("3_colour", "red")]⟩

def nearby : Form :=
  ⟨colourNearby.pairs.take 7⟩

theorem read_filters_are_buildable_nearby :
    (exists groups, ofForm nearby .standard = .ok groups ∧ groups ≠ [] ∧
      forall group, group ∈ groups -> forall item, item ∈ group.items ->
        item.IsReadFrom nearby .standard group.key) ∧
    (standalone {}).extensions.SparesFilters ∧
    (forall filter, ((standalone {}).compileForm nearby "" []).1 ≠
      .error (.request (.missingValue filter))) ∧
    ((standalone {}).compileForm colourNearby "" []).1 =
        .error (.request (.unknownFilter "colour")) ∧
      (standalone {}).LacksFilter colourNearby "colour" := by
  have hnearby := read_filters_are_buildable (standalone {}) nearby "" []
  have hcolour := read_filters_are_buildable (standalone {}) colourNearby "" []
  have hspares : (standalone {}).extensions.SparesFilters :=
    ExtensionRegistry.standard_sparesFilters
  have hunknown : ((standalone {}).compileForm colourNearby "" []).1 =
      .error (.request (.unknownFilter "colour")) := rfl
  exact ⟨⟨_, rfl, List.cons_ne_nil _ _, hnearby.1 _ rfl⟩, hspares,
    (hnearby.2.2.2 hspares).left, hunknown, (hcolour.2.2.2 hspares).right _ hunknown⟩

end Compiler
end Audience
