import Audience.Proofs.Denotation
import Audience.Proofs.GroupReading
import Audience.Proofs.Usable

/-!
# The first failure of a compilation

## Steps one after another

The steps for the entries of a list are taken in the order of the list.  The first one that
fails decides the error, and those behind it are never taken.
-/

namespace Audience

/-- The step for one of the entries fails with the error, and those for all entries in front
of it succeed. -/
def FirstFails (step : α -> Except ε β) (entries : List α) (cause : ε) : Prop :=
  exists before entry after, entries = before ++ entry :: after ∧
    (forall earlier, earlier ∈ before -> Succeeds (step earlier)) ∧
      step entry = .error cause

theorem bind_eq_error {first : Except ε α} {next : α -> Except ε β} {cause : ε} :
    (first >>= next) = .error cause <->
      first = .error cause ∨ exists value, first = .ok value ∧ next value = .error cause := by
  cases first with
  | error found =>
      simp [bind, Except.bind]
  | ok value =>
      simp [bind, Except.bind]

theorem bind_eq_error_of {first : Except ε α} {next : α -> Except ε β} {cause : ε}
    {fails : Prop} (hnext : forall value, next value = .error cause <-> fails) :
    (first >>= next) = .error cause <-> first = .error cause ∨ Succeeds first ∧ fails := by
  rw [bind_eq_error]
  simp only [hnext]
  exact or_congr_right exists_and_right

theorem succeeds_bind_of {first : Except ε α} {next : α -> Except ε β} {passes : Prop}
    (hnext : forall value, Succeeds (next value) <-> passes) :
    Succeeds (first >>= next) <-> Succeeds first ∧ passes := by
  rw [succeeds_bind]
  simp only [hnext]
  exact exists_and_right

theorem bind_pure_eq_error {first : Except ε α} {make : α -> β} {cause : ε} :
    (first >>= fun value => pure (make value)) = .error cause <-> first = .error cause := by
  cases first <;> simp [bind, Except.bind, pure, Except.pure]

theorem mapError_eq_error {outcome : Except ε α} {wrap : ε -> δ} {cause : δ} :
    outcome.mapError wrap = .error cause <->
      exists inner, outcome = .error inner ∧ wrap inner = cause := by
  cases outcome <;> simp [Except.mapError]

theorem map_eq_error {outcome : Except ε α} {make : α -> β} {cause : ε} :
    outcome.map make = .error cause <-> outcome = .error cause := by
  cases outcome <;> simp [Except.map]

theorem succeeds_map {outcome : Except ε α} {make : α -> β} :
    Succeeds (outcome.map make) <-> Succeeds outcome := by
  cases outcome <;> simp [Succeeds, Except.map]

variable {step : α -> Except ε β} {cause : ε}

@[simp] theorem firstFails_nil : ¬ FirstFails step [] cause := by
  intro h
  rcases h with ⟨before, entry, after, h, _⟩
  cases before <;> cases h

@[simp] theorem firstFails_cons {entry : α} {entries : List α} :
    FirstFails step (entry :: entries) cause <->
      step entry = .error cause ∨ Succeeds (step entry) ∧ FirstFails step entries cause := by
  constructor
  · intro h
    rcases h with ⟨before, failing, after, h, hbefore, hfails⟩
    cases before with
    | nil =>
        cases h
        exact Or.inl hfails
    | cons first before =>
        cases h
        rw [List.forall_mem_cons] at hbefore
        exact Or.inr ⟨hbefore.left, before, failing, after, rfl, hbefore.right, hfails⟩
  · intro h
    rcases h with hfails | ⟨hfirst, before, failing, after, rfl, hbefore, hfails⟩
    · exact ⟨[], entry, entries, rfl, by simp, hfails⟩
    · exact ⟨entry :: before, failing, after, rfl, List.forall_mem_cons.mpr ⟨hfirst, hbefore⟩,
        hfails⟩

theorem firstFails_append {entries others : List α} :
    FirstFails step (entries ++ others) cause <->
      FirstFails step entries cause ∨
        (forall entry, entry ∈ entries -> Succeeds (step entry)) ∧
          FirstFails step others cause := by
  induction entries with
  | nil =>
      simp
  | cons entry entries ih =>
      simp only [List.cons_append, firstFails_cons, ih, List.forall_mem_cons]
      tauto

theorem firstFails_map {make : γ -> α} {entries : List γ} :
    FirstFails step (entries.map make) cause <->
      FirstFails (fun entry => step (make entry)) entries cause := by
  induction entries with
  | nil =>
      simp
  | cons entry entries ih =>
      simp [ih]

theorem firstFails_flatMap {outer : γ -> Except ε δ} {parts : γ -> List α} {groups : List γ}
    (hsucceeds : forall group, Succeeds (outer group) <->
      forall entry, entry ∈ parts group -> Succeeds (step entry))
    (hfails : forall group, outer group = .error cause <->
      FirstFails step (parts group) cause) :
    FirstFails outer groups cause <-> FirstFails step (groups.flatMap parts) cause := by
  induction groups with
  | nil =>
      simp
  | cons group groups ih =>
      rw [List.flatMap_cons, firstFails_append, firstFails_cons, ih, hfails, hsucceeds]

/-- A run takes the step for the first entry, then goes on with the others. -/
structure TakesInOrder (step : α -> Except ε β) (run : List α -> Except ε γ) : Prop where
  nil : Succeeds (run [])
  cons :
    forall entry entries, exists combine : β -> γ -> γ,
      run (entry :: entries) =
        step entry >>= fun value => run entries >>= fun rest => pure (combine value rest)

namespace TakesInOrder

variable {run : List α -> Except ε γ}

theorem succeeds_iff (h : TakesInOrder step run) {entries : List α} :
    Succeeds (run entries) <-> forall entry, entry ∈ entries -> Succeeds (step entry) := by
  induction entries with
  | nil =>
      simp [h.nil]
  | cons entry entries ih =>
      rcases h.cons entry entries with ⟨combine, hcons⟩
      rw [hcons, List.forall_mem_cons, ← ih]
      exact succeeds_bind_of fun value => succeeds_bind_pure

theorem eq_error_iff (h : TakesInOrder step run) {entries : List α} :
    run entries = .error cause <-> FirstFails step entries cause := by
  induction entries with
  | nil =>
      rcases h.nil with ⟨value, hvalue⟩
      simp [hvalue]
  | cons entry entries ih =>
      rcases h.cons entry entries with ⟨combine, hcons⟩
      rw [hcons, firstFails_cons, ← ih]
      exact bind_eq_error_of fun value => bind_pure_eq_error

end TakesInOrder

/-!
## Reading the groups
-/

namespace FilterGroup

/-- A name that the marker of a group lists. -/
structure Listing where
  key : String
  number : String
  name : String

def listingsOf (form : Form) (key : String) : List Listing :=
  match listed? form key with
  | some number => (form.values key).map fun name => ⟨key, number, name⟩
  | none => []

def listings (form : Form) : List Listing :=
  form.keys.flatMap (listingsOf form)

variable {form : Form} {catalog : Catalog} {cause : RequestError}

def Listing.read (form : Form) (catalog : Catalog) (listing : Listing) :
    Except RequestError (Option FilterItem) :=
  item? form catalog listing.key listing.number listing.name

/-- Reading fails for a name with values that is neither a companion nor in the catalog. -/
theorem read_eq_error {listing : Listing} :
    listing.read form catalog = .error cause <->
      catalog.isCompanion listing.name = false ∧
        form.filledValues (keyUnder
          (prefixOf form listing.key listing.number listing.name) listing.name) ≠ [] ∧
        catalog.get? listing.name = none ∧ cause = .unknownFilter listing.name := by
  unfold Listing.read item? keyUnder
  cases catalog.isCompanion listing.name with
  | true =>
      simp
  | false =>
      simp only [Bool.false_eq_true, if_false]
      split
      · rename_i hempty
        simp [List.isEmpty_iff.mp hempty]
      · rename_i hfilled
        rw [List.isEmpty_iff] at hfilled
        cases catalog.get? listing.name <;> simp [hfilled, eq_comm]

theorem itemsOf_takesInOrder (form : Form) (catalog : Catalog) (key number : String) :
    TakesInOrder (item? form catalog key number) (itemsOf form catalog key number) where
  nil := ⟨[], rfl⟩
  cons _ _ := ⟨fun first rest => first.toList ++ rest, rfl⟩

def readKey (form : Form) (catalog : Catalog) (key : String) :
    Except RequestError (Option FilterGroup) :=
  match listed? form key with
  | some number => (itemsOf form catalog key number (form.values key)).map fun items =>
      some ⟨key, items⟩
  | none => .ok none

theorem ofKeys_takesInOrder (form : Form) (catalog : Catalog) :
    TakesInOrder (readKey form catalog) (ofKeys form catalog) where
  nil := ⟨[], rfl⟩
  cons key keys := by
    refine ⟨fun first rest => first.toList ++ rest, ?_⟩
    rw [ofKeys, readKey]
    cases listed? form key with
    | none =>
        cases ofKeys form catalog keys <;> rfl
    | some number =>
        dsimp only
        cases itemsOf form catalog key number (form.values key) <;> rfl

theorem readKey_succeeds_iff (key : String) :
    Succeeds (readKey form catalog key) <->
      forall listing, listing ∈ listingsOf form key ->
        Succeeds (listing.read form catalog) := by
  unfold readKey listingsOf
  cases listed? form key with
  | none =>
      simp [Succeeds]
  | some number =>
      rw [List.forall_mem_map]
      exact succeeds_map.trans (itemsOf_takesInOrder form catalog key number).succeeds_iff

private theorem readKey_eq_error (key : String) :
    readKey form catalog key = .error cause <->
      FirstFails (Listing.read form catalog) (listingsOf form key) cause := by
  unfold readKey listingsOf
  cases listed? form key with
  | none =>
      simp
  | some number =>
      rw [firstFails_map]
      exact map_eq_error.trans (itemsOf_takesInOrder form catalog key number).eq_error_iff

theorem ofForm_eq_error :
    ofForm form catalog = .error cause <->
      FirstFails (Listing.read form catalog) (listings form) cause :=
  (ofKeys_takesInOrder form catalog).eq_error_iff.trans
    (firstFails_flatMap readKey_succeeds_iff readKey_eq_error)

end FilterGroup

/-!
## Building the filters
-/

namespace BuiltItem

variable {sources : Sources} {catalog : Catalog}

def build (sources : Sources) (catalog : Catalog) (item : FilterItem) :
    Except SearchError BuiltItem :=
  match catalog.get? item.name with
  | none => .error (.request (.unknownFilter item.name))
  | some spec => ofItem sources spec item

theorem ofItems_takesInOrder (sources : Sources) (catalog : Catalog) :
    TakesInOrder (build sources catalog) (ofItems sources catalog) where
  nil := ⟨[], rfl⟩
  cons item items := by
    refine ⟨List.cons, ?_⟩
    rw [ofItems, build]
    cases catalog.get? item.name <;> rfl

theorem ofGroups_takesInOrder (sources : Sources) (catalog : Catalog) :
    TakesInOrder (fun group => ofItems sources catalog group.items)
      (ofGroups sources catalog) where
  nil := ⟨[], rfl⟩
  cons _ _ := ⟨List.cons, rfl⟩

theorem ofGroups_eq_error {groups : List FilterGroup} {cause : SearchError} :
    ofGroups sources catalog groups = .error cause <->
      FirstFails (build sources catalog) (groups.flatMap (·.items)) cause :=
  (ofGroups_takesInOrder sources catalog).eq_error_iff.trans
    (firstFails_flatMap (fun _ => (ofItems_takesInOrder sources catalog).succeeds_iff)
      fun _ => (ofItems_takesInOrder sources catalog).eq_error_iff)

theorem ofGroups_succeeds_iff {groups : List FilterGroup} :
    Succeeds (ofGroups sources catalog groups) <->
      forall item, item ∈ groups.flatMap (·.items) -> Succeeds (build sources catalog item) := by
  rw [(ofGroups_takesInOrder sources catalog).succeeds_iff, List.forall_mem_flatMap]
  exact forall₂_congr fun _ _ => (ofItems_takesInOrder sources catalog).succeeds_iff

end BuiltItem

namespace Compiler

variable {compiler : Compiler} {form : Form} {log : List String}

/-!
## Listed ids and extension columns
-/

theorem idSearch_eq_error {cause : RequestError} :
    idSearch? form = .error cause <->
      exists raw, form.filled? "user_akid" = some raw ∧ Entry.userIds raw = .error cause := by
  unfold idSearch?
  cases form.filled? "user_akid" with
  | none =>
      simp
  | some raw =>
      simp only [Option.some.injEq, exists_eq_left']
      exact bind_pure_eq_error

theorem idSearch_succeeds_iff :
    Succeeds (idSearch? form) <->
      forall raw, form.filled? "user_akid" = some raw -> Succeeds (Entry.userIds raw) := by
  unfold idSearch?
  cases form.filled? "user_akid" with
  | none =>
      simp [Succeeds]
  | some raw =>
      simp only [Option.some.injEq, forall_eq']
      exact succeeds_bind_pure

theorem extensionsOf_takesInOrder (registry : ExtensionRegistry) :
    TakesInOrder registry.load (extensionsOf registry) where
  nil := ⟨[], rfl⟩
  cons _ _ :=
    ⟨fun extension rest => ⟨extension.predicate, "\n and " ++ extension.phrase⟩ :: rest, rfl⟩

theorem extensionSearch_eq (compiler : Compiler) (form : Form) :
    compiler.extensionSearch form =
      (compiler.requestedColumns form).mapError .columnCatalog >>= fun columns =>
        (extensionsOf compiler.extensions columns).mapError .request := by
  unfold extensionSearch requestedColumns
  cases form.filledValues "column" with
  | nil =>
      rfl
  | cons name names =>
      dsimp only
      cases compiler.columns.load (name :: names) <;> rfl

/-!
## Stages
-/

def BuildsFilters (compiler : Compiler) (form : Form) : Prop :=
  exists groups, FilterGroup.ofForm form compiler.catalog = .ok groups ∧
    forall item, item ∈ groups.flatMap (·.items) ->
      Succeeds (BuiltItem.build compiler.sources compiler.catalog item)

def ReadsIds (form : Form) : Prop :=
  forall raw, form.filled? "user_akid" = some raw -> Succeeds (Entry.userIds raw)

def MakesColumns (compiler : Compiler) (form : Form) : Prop :=
  exists columns, compiler.requestedColumns form = .ok columns ∧
    forall column, column ∈ columns -> Succeeds (compiler.extensions.load column)

/-- All stages succeed. -/
structure Passes (compiler : Compiler) (form : Form) (log : List String) : Prop where
  filters : compiler.BuildsFilters form
  ids : ReadsIds form
  columns : compiler.MakesColumns form
  template :
    exists assembled, compiler.assemble form = .ok assembled ∧
      Succeeds (compiler.template assembled.plan log).1

/-- The first step that fails, with its error.  Nothing is said about the steps behind it. -/
inductive StopsWith (compiler : Compiler) (form : Form) (log : List String) :
    SearchError -> Prop where
  /-- A listed name stands for no filter. -/
  | name {cause : RequestError}
      (hname : FirstFails (FilterGroup.Listing.read form compiler.catalog)
        (FilterGroup.listings form) cause) :
      StopsWith compiler form log (.request cause)
  /-- A filter cannot be built; they are taken group by group. -/
  | filter {groups : List FilterGroup} {cause : SearchError}
      (hgroups : FilterGroup.ofForm form compiler.catalog = .ok groups)
      (hfilter : FirstFails (BuiltItem.build compiler.sources compiler.catalog)
        (groups.flatMap (·.items)) cause) :
      StopsWith compiler form log cause
  | ids {raw : String} {cause : RequestError}
      (hfilters : compiler.BuildsFilters form)
      (hraw : form.filled? "user_akid" = some raw)
      (hids : Entry.userIds raw = .error cause) :
      StopsWith compiler form log (.request cause)
  /-- The catalog of columns cannot be asked. -/
  | catalog {message : String}
      (hfilters : compiler.BuildsFilters form) (hids : ReadsIds form)
      (hcatalog : compiler.requestedColumns form = .error message) :
      StopsWith compiler form log (.columnCatalog message)
  | column {columns : List ExtensionColumn} {cause : RequestError}
      (hfilters : compiler.BuildsFilters form) (hids : ReadsIds form)
      (hcolumns : compiler.requestedColumns form = .ok columns)
      (hcolumn : FirstFails compiler.extensions.load columns cause) :
      StopsWith compiler form log (.request cause)
  | template {assembled : Assembled} {cause : CaptureError}
      (hassembled : compiler.assemble form = .ok assembled)
      (htemplate : (compiler.template assembled.plan log).1 = .error cause) :
      StopsWith compiler form log (.capture cause)

theorem compileForm_eq (compiler : Compiler) (form : Form) (request : String)
    (log : List String) :
    (compiler.compileForm form request log).1 =
      compiler.assemble form >>= fun assembled =>
        (compiler.template assembled.plan log).1.mapError .capture >>= fun template =>
          pure ⟨assembled.description, request, template⟩ := by
  unfold compileForm
  cases compiler.assemble form with
  | error cause =>
      rfl
  | ok assembled =>
      dsimp only [bind, Except.bind]
      rcases compiler.template assembled.plan log with ⟨cause | template, after⟩ <;> rfl

theorem extensionSearch_succeeds_iff :
    Succeeds (compiler.extensionSearch form) <-> compiler.MakesColumns form := by
  rw [extensionSearch_eq, succeeds_bind]
  apply exists_congr
  intro columns
  rw [mapError_eq_ok, succeeds_mapError,
    (extensionsOf_takesInOrder compiler.extensions).succeeds_iff]

theorem extensionSearch_eq_error {cause : SearchError} :
    compiler.extensionSearch form = .error cause <->
      (exists message, compiler.requestedColumns form = .error message ∧
        .columnCatalog message = cause) ∨
      exists columns, compiler.requestedColumns form = .ok columns ∧
        exists inner, FirstFails compiler.extensions.load columns inner ∧
          .request inner = cause := by
  rw [extensionSearch_eq, bind_eq_error, mapError_eq_error]
  apply or_congr_right
  apply exists_congr
  intro columns
  rw [mapError_eq_ok, mapError_eq_error]
  simp only [(extensionsOf_takesInOrder compiler.extensions).eq_error_iff]

theorem assemble_succeeds_iff :
    Succeeds (compiler.assemble form) <->
      compiler.BuildsFilters form ∧ ReadsIds form ∧ compiler.MakesColumns form := by
  rw [assemble_eq_map_parts, succeeds_map, parts, succeeds_bind, BuildsFilters,
    ← exists_and_right]
  apply exists_congr
  intro groups
  rw [mapError_eq_ok, and_assoc, ← BuiltItem.ofGroups_succeeds_iff]
  apply and_congr_right
  intro _
  apply succeeds_bind_of
  intro built
  rw [ReadsIds, ← idSearch_succeeds_iff, ← extensionSearch_succeeds_iff,
    ← @succeeds_mapError _ _ _ (idSearch? form) SearchError.request]
  exact succeeds_bind_of fun ids => succeeds_bind_pure

private theorem assemble_eq_error {cause : SearchError} :
    compiler.assemble form = .error cause <->
      (exists inner, FilterGroup.ofForm form compiler.catalog = .error inner ∧
        .request inner = cause) ∨
      (exists groups, FilterGroup.ofForm form compiler.catalog = .ok groups ∧
        BuiltItem.ofGroups compiler.sources compiler.catalog groups = .error cause) ∨
      compiler.BuildsFilters form ∧
        ((exists inner, idSearch? form = .error inner ∧ .request inner = cause) ∨
          ReadsIds form ∧ compiler.extensionSearch form = .error cause) := by
  rw [assemble_eq_map_parts, map_eq_error, parts, bind_eq_error, mapError_eq_error,
    BuildsFilters, ← exists_and_right, ← exists_or]
  apply or_congr_right
  apply exists_congr
  intro groups
  rw [mapError_eq_ok, and_assoc, ← and_or_left, ← BuiltItem.ofGroups_succeeds_iff]
  apply and_congr_right
  intro _
  apply bind_eq_error_of
  intro built
  rw [ReadsIds, ← idSearch_succeeds_iff, ← mapError_eq_error,
    ← @succeeds_mapError _ _ _ (idSearch? form) SearchError.request]
  exact bind_eq_error_of fun ids => bind_pure_eq_error

theorem compileForm_eq_error {request : String} {cause : SearchError} :
    (compiler.compileForm form request log).1 = .error cause <->
      compiler.StopsWith form log cause := by
  rw [compileForm_eq, bind_eq_error, assemble_eq_error]
  constructor
  · intro h
    rcases h with (⟨inner, hgroups, rfl⟩ | ⟨groups, hgroups, hbuilt⟩ | ⟨hfilters, h⟩) |
      ⟨assembled, hassembled, h⟩
    · exact .name (FilterGroup.ofForm_eq_error.mp hgroups)
    · exact .filter hgroups (BuiltItem.ofGroups_eq_error.mp hbuilt)
    · rcases h with ⟨inner, hids, rfl⟩ | ⟨hids, h⟩
      · rcases idSearch_eq_error.mp hids with ⟨raw, hraw, hids⟩
        exact .ids hfilters hraw hids
      · rcases extensionSearch_eq_error.mp h with ⟨message, hcatalog, rfl⟩ |
          ⟨columns, hcolumns, inner, hcolumn, rfl⟩
        · exact .catalog hfilters hids hcatalog
        · exact .column hfilters hids hcolumns hcolumn
    · rw [bind_pure_eq_error, mapError_eq_error] at h
      rcases h with ⟨inner, htemplate, rfl⟩
      exact .template hassembled htemplate
  · intro h
    cases h with
    | name hname =>
        exact Or.inl (Or.inl ⟨_, FilterGroup.ofForm_eq_error.mpr hname, rfl⟩)
    | filter hgroups hfilter =>
        exact Or.inl (Or.inr (Or.inl ⟨_, hgroups, BuiltItem.ofGroups_eq_error.mpr hfilter⟩))
    | ids hfilters hraw hids =>
        have hsearch := idSearch_eq_error.mpr ⟨_, hraw, hids⟩
        exact Or.inl (Or.inr (Or.inr ⟨hfilters, Or.inl ⟨_, hsearch, rfl⟩⟩))
    | catalog hfilters hids hcatalog =>
        have hsearch := extensionSearch_eq_error.mpr (Or.inl ⟨_, hcatalog, rfl⟩)
        exact Or.inl (Or.inr (Or.inr ⟨hfilters, Or.inr ⟨hids, hsearch⟩⟩))
    | column hfilters hids hcolumns hcolumn =>
        have hsearch := extensionSearch_eq_error.mpr
          (Or.inr ⟨_, hcolumns, _, hcolumn, rfl⟩)
        exact Or.inl (Or.inr (Or.inr ⟨hfilters, Or.inr ⟨hids, hsearch⟩⟩))
    | template hassembled htemplate =>
        apply Or.inr
        refine ⟨_, hassembled, ?_⟩
        rw [bind_pure_eq_error, mapError_eq_error]
        exact ⟨_, htemplate, rfl⟩

theorem compileForm_succeeds_iff {request : String} :
    Succeeds (compiler.compileForm form request log).1 <-> compiler.Passes form log := by
  rw [compileForm_eq, succeeds_bind]
  simp only [succeeds_bind_pure, succeeds_mapError]
  constructor
  · intro h
    rcases h with ⟨assembled, hassembled, htemplate⟩
    rcases assemble_succeeds_iff.mp ⟨assembled, hassembled⟩ with ⟨hfilters, hids, hcolumns⟩
    exact ⟨hfilters, hids, hcolumns, assembled, hassembled, htemplate⟩
  · intro h
    exact h.template

/-- Some filter of the request has values that its builder cannot use. -/
def AsksUnusably (compiler : Compiler) (form : Form) : Prop :=
  exists groups group item spec, FilterGroup.ofForm form compiler.catalog = .ok groups ∧
    group ∈ groups ∧ item ∈ group.items ∧ compiler.catalog.get? item.name = some spec ∧
      ¬ item.Usable compiler.sources spec

private theorem not_buildsFilters_of_asksUnusably (h : compiler.AsksUnusably form) :
    ¬ compiler.BuildsFilters form := by
  rcases h with ⟨groups, group, item, spec, hgroups, hgroup, hitem, hspec, hunusable⟩
  intro h
  rcases h with ⟨others, hothers, hbuilds⟩
  rw [hgroups] at hothers
  cases hothers
  have hbuild := hbuilds item (List.mem_flatMap_of_mem hgroup hitem)
  rw [BuiltItem.build, hspec] at hbuild
  exact hunusable (BuiltItem.ofItem_succeeds_iff.mp hbuild)

/--
A compilation has a result exactly if all its stages succeed, and otherwise it fails with the
error of the first step that fails.  A name that stands for no filter decides the error for
every compiler with this catalog, and there is no result if a filter has values that its
builder cannot use or if the listed ids cannot be read.
-/
theorem compile_stops_at_first_failure (compiler : Compiler) (form : Form) (request : String)
    (log : List String) :
    (Succeeds (compiler.compileForm form request log).1 <-> compiler.Passes form log) ∧
      (forall cause, (compiler.compileForm form request log).1 = .error cause <->
        compiler.StopsWith form log cause) ∧
      (forall cause,
        FirstFails (FilterGroup.Listing.read form compiler.catalog)
          (FilterGroup.listings form) cause ->
        forall (other : Compiler) (otherLog : List String), other.catalog = compiler.catalog ->
          (other.compileForm form request otherLog).1 = .error (.request cause)) ∧
      (compiler.AsksUnusably form ->
        ¬ Succeeds (compiler.compileForm form request log).1) ∧
      forall raw, form.filled? "user_akid" = some raw -> ¬ Entry.ListsIds raw ->
        ¬ Succeeds (compiler.compileForm form request log).1 := by
  refine ⟨compileForm_succeeds_iff, fun cause => compileForm_eq_error, ?_, ?_, ?_⟩
  · intro cause hname other otherLog hcatalog
    rw [← hcatalog] at hname
    exact compileForm_eq_error.mpr (.name hname)
  · intro hunusable hsucceeds
    exact not_buildsFilters_of_asksUnusably hunusable
      (compileForm_succeeds_iff.mp hsucceeds).filters
  · intro raw hraw hids hsucceeds
    have hread := (compileForm_succeeds_iff.mp hsucceeds).ids raw hraw
    exact hids (Entry.userIds_succeeds_iff.mp hread)

/-- Asks for a date that is none, for an id that is none, and for a column. -/
def faulty : Form :=
  ⟨[("include:1", "country"), ("1_country", "US"), ("include:2", "created_before"),
    ("2_created_before", " soon "), ("user_akid", "7, x"), ("column", "vip")]⟩

def unheardOf : Form :=
  ⟨[("include:1", "colour"), ("1_colour", "red"), ("user_akid", "x")]⟩

def cutOff : Compiler :=
  { standalone {} with columns := .failing "no connection" }

theorem compile_stops_at_first_failure_faulty :
    cutOff.StopsWith faulty [] (.request (.invalidDate "created_before" " soon ")) ∧
      cutOff.AsksUnusably faulty ∧ ¬ Entry.ListsIds "7, x" ∧
      ¬ Succeeds (cutOff.compileForm faulty "" []).1 ∧
      (cutOff.compileForm unheardOf "" []).1 = .error (.request (.unknownFilter "colour")) := by
  have hstops := compile_stops_at_first_failure cutOff faulty "" []
  have hasks : cutOff.AsksUnusably faulty := by
    refine ⟨_, _, _, _, rfl, List.mem_cons_of_mem _ List.mem_cons_self, List.mem_cons_self,
      rfl, ?_⟩
    intro h
    rcases h with ⟨raw, hraw, time, htime⟩
    cases hraw
    cases htime
  have hids : ¬ Entry.ListsIds "7, x" := by
    intro h
    rcases Entry.userIds_succeeds_iff.mpr h with ⟨ids, hread⟩
    cases hread
  have hname : FirstFails (FilterGroup.Listing.read unheardOf cutOff.catalog)
      (FilterGroup.listings unheardOf) (.unknownFilter "colour") :=
    ⟨[], ⟨"include:1", "1", "colour"⟩, [], rfl, by simp,
      FilterGroup.read_eq_error.mpr ⟨rfl, by decide, rfl, rfl⟩⟩
  have hsame := (compile_stops_at_first_failure (standalone {}) unheardOf "" []).2.2.1
  exact ⟨(hstops.2.1 _).mp rfl, hasks, hids, hstops.2.2.2.1 hasks,
    hsame _ hname cutOff [] rfl⟩

end Compiler
end Audience
