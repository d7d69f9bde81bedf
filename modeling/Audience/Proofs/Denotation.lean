import Audience.Proofs.Evaluation
import Audience.Proofs.Items

/-!
# What a request asks for

## Requirements

A request is read here as a list of requirements on a user, each in the words of the form:
the filters of its groups, the free text, the listed ids, the extension columns, and the
subscription.  The plan of a request selects exactly the users that meet all of them.  There
is one exception: a plan that shows nothing but ids and that nothing narrows is turned into
one that selects nobody.
-/

namespace Audience
namespace Compiler

/-- The user meets every filter of a group. -/
def MeetsGroup (compiler : Compiler) (user : User) (group : FilterGroup) : Prop :=
  forall item, item ∈ group.items ->
    exists built,
      BuiltItem.BuiltFrom compiler.sources compiler.catalog item built ∧
        built.predicate.holds user = .ok true

/-- The extension columns that the request names; the store is not asked if there are
none. -/
def requestedColumns (compiler : Compiler) (form : Form) :
    Except String (List ExtensionColumn) :=
  match form.filledValues "column" with
  | [] => .ok []
  | names => compiler.columns.load names

/-- The user meets everything that the request asks for. -/
structure Wants (compiler : Compiler) (form : Form) (user : User) : Prop where
  /-- No group has a filter, or all filters of one group are met. -/
  groups :
    exists groups, FilterGroup.ofForm form compiler.catalog = .ok groups ∧
      ((forall group, group ∈ groups -> group.items = []) ∨
        exists group, group ∈ groups ∧ group.items ≠ [] ∧ compiler.MeetsGroup user group)
  /-- One of the searches in free text finds the user, if there are any. -/
  text :
    form.filled? "user_name" = none ∧ form.filled? "user_email" = none ∨
      (exists name, form.filled? "user_name" = some name ∧
        Text.like (namePattern name).toList user.fullName.toList = true) ∨
      (exists email, form.filled? "user_email" = some email ∧
        Text.like (emailPattern email).toList user.email.toList = true)
  /-- The user is among the listed ids, if there are any. -/
  ids :
    forall raw, form.filled? "user_akid" = some raw ->
      exists ids, Entry.userIds raw = .ok ids ∧ user.id ∈ ids
  /-- The conditions of all extension columns are met. -/
  extensions :
    exists columns, compiler.requestedColumns form = .ok columns ∧
      forall column, column ∈ columns ->
        exists extension, compiler.extensions.load column = .ok extension ∧
          extension.predicate.holds user = .ok true
  /-- The user is a subscriber, unless the request asks for all users. -/
  subscription :
    asksForAll form = true ∨ user.subscriptionStatus = compiler.settings.subscribedStatus

/-- Nothing but ids is shown and nothing but the subscription narrows the result. -/
structure NarrowsNothing (compiler : Compiler) (form : Form) : Prop where
  columns : compiler.settings.reportColumns = false
  groups :
    exists groups, FilterGroup.ofForm form compiler.catalog = .ok groups ∧
      forall group, group ∈ groups -> group.items = []
  name : form.filled? "user_name" = none
  email : form.filled? "user_email" = none
  ids : form.filled? "user_akid" = none
  extensions :
    exists columns, compiler.requestedColumns form = .ok columns ∧
      forall column, column ∈ columns ->
        exists extension, compiler.extensions.load column = .ok extension ∧
          extension.predicate = .everyone

/-!
## Groups
-/

theorem conjunction_holds_true {user : User} (built : List BuiltItem) :
    (BuiltItem.conjunction built).holds user = .ok true <->
      forall item, item ∈ built -> item.predicate.holds user = .ok true := by
  rw [BuiltItem.conjunction_eq_foldl, Predicate.foldl_and_holds_true, List.forall_mem_map]
  exact and_iff_right rfl

theorem builtFrom_unique {sources : Sources} {catalog : Catalog} {item : FilterItem}
    {built other : BuiltItem} (h : BuiltItem.BuiltFrom sources catalog item built)
    (hother : BuiltItem.BuiltFrom sources catalog item other) :
    built = other := by
  rcases h with ⟨spec, hspec, hbuilt⟩
  rcases hother with ⟨otherSpec, hotherSpec, hotherBuilt⟩
  rw [hspec] at hotherSpec
  cases hotherSpec
  rw [hbuilt] at hotherBuilt
  exact Except.ok.inj hotherBuilt

theorem forall_builtFrom_iff {sources : Sources} {catalog : Catalog}
    {items : List FilterItem} {built : List BuiltItem} {user : User}
    (h : List.Forall₂ (BuiltItem.BuiltFrom sources catalog) items built) :
    (forall item, item ∈ items -> exists made,
        BuiltItem.BuiltFrom sources catalog item made ∧
          made.predicate.holds user = .ok true) <->
      forall made, made ∈ built -> made.predicate.holds user = .ok true := by
  induction h with
  | nil =>
      simp
  | cons hfirst hrest ih =>
      rw [List.forall_mem_cons, List.forall_mem_cons, ih]
      apply and_congr_left
      intro _
      constructor
      · intro hmet
        rcases hmet with ⟨made, hmade, hholds⟩
        rw [builtFrom_unique hfirst hmade]
        exact hholds
      · intro hholds
        exact ⟨_, hfirst, hholds⟩

theorem meetsGroup_iff {compiler : Compiler} {user : User} {group : FilterGroup}
    {built : List BuiltItem}
    (h : List.Forall₂ (BuiltItem.BuiltFrom compiler.sources compiler.catalog)
      group.items built) :
    compiler.MeetsGroup user group <->
      (BuiltItem.conjunction built).holds user = .ok true := by
  rw [conjunction_holds_true, MeetsGroup, forall_builtFrom_iff h]

/-- The groups of a request with what has been built from their filters. -/
def BuiltGroups (compiler : Compiler) (groups : List FilterGroup)
    (built : List (List BuiltItem)) : Prop :=
  List.Forall₂ (fun group items =>
    List.Forall₂ (BuiltItem.BuiltFrom compiler.sources compiler.catalog) group.items items)
    groups built

def narrowingGroups (built : List (List BuiltItem)) : List Predicate :=
  (built.filter fun items => !BuiltItem.isIdle items).map BuiltItem.conjunction

theorem selectionOf_eq (built : List (List BuiltItem)) :
    selectionOf built =
      if narrowingGroups built = [] then .everyone
      else (narrowingGroups built).foldl Predicate.or .nobody := by
  unfold selectionOf narrowingGroups
  rw [List.foldl_map]
  cases built.filter fun items => !BuiltItem.isIdle items <;> rfl

theorem narrowingGroups_eq_nil {compiler : Compiler} {groups : List FilterGroup}
    {built : List (List BuiltItem)} (h : compiler.BuiltGroups groups built) :
    narrowingGroups built = [] <-> forall group, group ∈ groups -> group.items = [] := by
  rw [narrowingGroups, List.map_eq_nil_iff]
  induction h with
  | nil =>
      simp
  | cons hfirst hrest ih =>
      rename_i group items groups built
      have hidle := BuiltItem.isIdle_iff hfirst
      rw [List.forall_mem_cons, ← ih, ← hidle, List.filter_cons]
      cases BuiltItem.isIdle items <;> simp

theorem exists_narrowingGroup_iff {compiler : Compiler} {groups : List FilterGroup}
    {built : List (List BuiltItem)} {user : User}
    (h : compiler.BuiltGroups groups built) :
    (exists p, p ∈ narrowingGroups built ∧ p.holds user = .ok true) <->
      exists group, group ∈ groups ∧ group.items ≠ [] ∧ compiler.MeetsGroup user group := by
  unfold narrowingGroups
  induction h with
  | nil =>
      simp
  | cons hfirst hrest ih =>
      rename_i group items groups built
      have hidle := BuiltItem.isIdle_iff hfirst
      have hmeets : compiler.MeetsGroup user group <->
          (BuiltItem.conjunction items).holds user = .ok true := meetsGroup_iff hfirst
      simp only [List.mem_cons, exists_eq_or_imp]
      rw [← ih, hmeets, Ne, ← hidle, List.filter_cons]
      cases BuiltItem.isIdle items <;> simp

/-- The selection of the groups tells whether one of them is met, or none has a filter. -/
theorem tells_selectionOf {compiler : Compiler} {groups : List FilterGroup}
    {built : List (List BuiltItem)} {user : User}
    (h : compiler.BuiltGroups groups built) :
    Predicate.Tells ((selectionOf built).holds user)
      ((forall group, group ∈ groups -> group.items = []) ∨
        exists group, group ∈ groups ∧ group.items ≠ [] ∧
          compiler.MeetsGroup user group) := by
  rw [selectionOf_eq]
  by_cases hnone : narrowingGroups built = []
  · rw [if_pos hnone]
    apply Predicate.tells_ok
    exact iff_of_true rfl (Or.inl ((narrowingGroups_eq_nil h).mp hnone))
  · rw [if_neg hnone]
    have hnobody : Predicate.Tells (Predicate.nobody.holds user) False :=
      Predicate.tells_ok (by simp)
    refine Predicate.tells_congr (Predicate.tells_foldl_or hnobody _) ?_
    rw [false_or, exists_narrowingGroup_iff h, ← narrowingGroups_eq_nil h]
    simp [hnone]

theorem isUnfiltered_selectionOf {compiler : Compiler} {groups : List FilterGroup}
    {built : List (List BuiltItem)} (h : compiler.BuiltGroups groups built) :
    (selectionOf built).isUnfiltered = true <->
      forall group, group ∈ groups -> group.items = [] := by
  rw [selectionOf_eq, ← narrowingGroups_eq_nil h]
  by_cases hnone : narrowingGroups built = []
  · simp [hnone, Predicate.isUnfiltered]
  · have hnarrow : forall p, p ∈ narrowingGroups built -> p.isUnfiltered = false := by
      intro p hp
      rcases List.mem_map.mp hp with ⟨items, hitems, rfl⟩
      have hidle : BuiltItem.isIdle items = false := by
        simpa using (List.mem_filter.mp hitems).right
      exact (Bool.or_eq_false_iff.mp hidle).right
    rw [if_neg hnone, Predicate.isUnfiltered_foldl_or rfl hnarrow]
    simp [hnone]

/-!
## Free text and listed ids
-/

theorem textSearch_met_iff (form : Form) (user : User) :
    (forall search, search ∈ (textSearch? form).toList ->
        search.predicate.holds user = .ok true) <->
      (form.filled? "user_name" = none ∧ form.filled? "user_email" = none ∨
        (exists name, form.filled? "user_name" = some name ∧
          Text.like (namePattern name).toList user.fullName.toList = true) ∨
        (exists email, form.filled? "user_email" = some email ∧
          Text.like (emailPattern email).toList user.email.toList = true)) := by
  unfold textSearch? nameSearch? emailSearch?
  rcases form.filled? "user_name" with _ | name <;>
    rcases form.filled? "user_email" with _ | email
  · simp
  · simp [Predicate.holds, User.searchText]
  · simp [Predicate.holds, User.searchText]
  · simp only [Option.map_some, Option.toList_some, List.forall_mem_singleton,
      Predicate.holds_or, Predicate.holds, User.searchText, reduceCtorEq, false_and,
      false_or, Option.some.injEq, exists_eq_left']
    cases Text.like (namePattern name).toList user.fullName.toList <;>
      simp [Predicate.either]

theorem idSearch_met_iff {form : Form} {ids : Option Narrowing}
    (h : idSearch? form = .ok ids) (user : User) :
    (forall search, search ∈ ids.toList -> search.predicate.holds user = .ok true) <->
      forall raw, form.filled? "user_akid" = some raw ->
        exists listed, Entry.userIds raw = .ok listed ∧ user.id ∈ listed := by
  unfold idSearch? at h
  cases hraw : form.filled? "user_akid" with
  | none =>
      rw [hraw] at h
      cases h
      simp
  | some raw =>
      rw [hraw] at h
      rcases bind_eq_ok.mp h with ⟨listed, hlisted, h⟩
      cases h
      simp [Predicate.holds, hlisted]

theorem overrides_unfiltered_iff {form : Form} {parts : Parts}
    (h : idSearch? form = .ok parts.ids) :
    ((parts.overrides form).map (·.predicate)).all Predicate.isUnfiltered = true <->
      form.filled? "user_name" = none ∧ form.filled? "user_email" = none ∧
        form.filled? "user_akid" = none := by
  have hids : (parts.ids.toList.map (·.predicate)).all Predicate.isUnfiltered = true <->
      form.filled? "user_akid" = none := by
    unfold idSearch? at h
    cases hraw : form.filled? "user_akid" with
    | none =>
        rw [hraw] at h
        rw [← Except.ok.inj h]
        simp
    | some raw =>
        rw [hraw] at h
        rcases bind_eq_ok.mp h with ⟨listed, _, h⟩
        rw [← Except.ok.inj h]
        simp [Predicate.isUnfiltered]
  rw [Parts.overrides, List.map_append, List.all_append, Bool.and_eq_true, hids,
    ← and_assoc]
  apply and_congr_left
  intro _
  unfold textSearch? nameSearch? emailSearch?
  rcases form.filled? "user_name" with _ | name <;>
    rcases form.filled? "user_email" with _ | email
  · simp
  · simp [Predicate.isUnfiltered]
  · simp [Predicate.isUnfiltered]
  · simp [Predicate.or, Predicate.isUnfiltered]

/-!
## Extension columns
-/

private theorem extensionsOf_eq_ok {registry : ExtensionRegistry} {columns : List ExtensionColumn}
    {narrowings : List Narrowing} (h : extensionsOf registry columns = .ok narrowings) :
    List.Forall₂ (fun column narrowing => exists extension,
      registry.load column = .ok extension ∧ narrowing.predicate = extension.predicate)
      columns narrowings := by
  induction columns generalizing narrowings with
  | nil =>
      cases h
      exact List.Forall₂.nil
  | cons column columns ih =>
      unfold extensionsOf at h
      rcases bind_eq_ok.mp h with ⟨extension, hextension, h⟩
      rcases bind_eq_ok.mp h with ⟨rest, hrest, h⟩
      cases h
      exact List.Forall₂.cons ⟨extension, hextension, rfl⟩ (ih hrest)

theorem extensionSearch_eq_ok {compiler : Compiler} {form : Form}
    {narrowings : List Narrowing} (h : compiler.extensionSearch form = .ok narrowings) :
    exists columns, compiler.requestedColumns form = .ok columns ∧
      List.Forall₂ (fun column narrowing => exists extension,
        compiler.extensions.load column = .ok extension ∧
          narrowing.predicate = extension.predicate)
        columns narrowings := by
  unfold extensionSearch at h
  unfold requestedColumns
  cases hnames : form.filledValues "column" with
  | nil =>
      rw [hnames] at h
      cases h
      exact ⟨[], rfl, List.Forall₂.nil⟩
  | cons name names =>
      rw [hnames] at h
      dsimp only at h ⊢
      cases hcolumns : compiler.columns.load (name :: names) with
      | error cause =>
          rw [hcolumns] at h
          cases h
      | ok columns =>
          rw [hcolumns] at h
          exact ⟨columns, rfl, extensionsOf_eq_ok (mapError_eq_ok.mp h)⟩

theorem forall_extensions_iff {registry : ExtensionRegistry}
    {columns : List ExtensionColumn} {narrowings : List Narrowing}
    (h : List.Forall₂ (fun column narrowing => exists extension,
      registry.load column = .ok extension ∧ narrowing.predicate = extension.predicate)
      columns narrowings) (property : Predicate -> Prop) :
    (forall narrowing, narrowing ∈ narrowings -> property narrowing.predicate) <->
      forall column, column ∈ columns ->
        exists extension, registry.load column = .ok extension ∧
          property extension.predicate := by
  induction h with
  | nil =>
      simp
  | cons hfirst hrest ih =>
      rcases hfirst with ⟨extension, hload, hpredicate⟩
      rw [List.forall_mem_cons, List.forall_mem_cons, ih, hpredicate, hload]
      apply and_congr_left
      intro _
      simp

/-!
## The plan
-/

theorem narrowed_selection (plan : Plan) (narrowings : List Narrowing) :
    (narrowed plan narrowings).selection =
      (narrowings.map (·.predicate)).foldl Predicate.and plan.selection := by
  induction narrowings generalizing plan with
  | nil =>
      rfl
  | cons narrowing rest ih =>
      exact ih (plan.filter narrowing.predicate)

theorem narrowed_shown (plan : Plan) (narrowings : List Narrowing) :
    (narrowed plan narrowings).columns = plan.columns ∧
      (narrowed plan narrowings).isDistinct = plan.isDistinct := by
  induction narrowings generalizing plan with
  | nil =>
      exact ⟨rfl, rfl⟩
  | cons narrowing rest ih =>
      exact ih (plan.filter narrowing.predicate)

@[simp] theorem withColumns_selection (plan : Plan) (columns : List OutputColumn) :
    (plan.withColumns columns).selection = plan.selection := by
  induction columns generalizing plan with
  | nil =>
      rfl
  | cons column rest ih =>
      rw [Plan.withColumns, List.foldl_cons]
      refine (ih (plan.withColumn column)).trans ?_
      unfold Plan.withColumn
      split <;> rfl

theorem wanted_selection (parts : Parts) (compiler : Compiler) (form : Form) :
    (parts.wanted compiler form).selection =
      (parts.extensions.map (·.predicate)).foldl Predicate.and
        (((parts.overrides form).map (·.predicate)).foldl Predicate.and
          (selectionOf parts.built)) := by
  have hstart : (Plan.baseline.filter (selectionOf parts.built)).selection =
      selectionOf parts.built := rfl
  rw [Parts.wanted, narrowed_selection]
  split
  · rw [withColumns_selection, narrowed_selection, hstart]
  · rw [narrowed_selection, hstart]

theorem wanted_shown_iff (parts : Parts) (compiler : Compiler) (form : Form) :
    ((parts.wanted compiler form).columns == [.id] &&
        !(parts.wanted compiler form).isDistinct) = true <->
      compiler.settings.reportColumns = false := by
  have hshown := narrowed_shown (Plan.baseline.filter (selectionOf parts.built))
    (parts.overrides form)
  rw [Parts.wanted, (narrowed_shown _ _).left, (narrowed_shown _ _).right]
  generalize narrowed (Plan.baseline.filter (selectionOf parts.built))
    (parts.overrides form) = searched at hshown ⊢
  rcases searched with ⟨selection, columns, isDistinct⟩
  rcases hshown with ⟨hcolumns, hdistinct⟩
  dsimp only at hcolumns hdistinct
  rw [hcolumns, hdistinct]
  cases compiler.settings.reportColumns
  · exact iff_of_true rfl rfl
  · simp [Plan.filter, Plan.baseline, Plan.withColumns, Plan.withColumn, reportColumns]

theorem subscribed_met_iff (compiler : Compiler) (form : Form) (user : User) :
    (forall narrowing, narrowing ∈ Parts.subscribed compiler form ->
        narrowing.predicate.holds user = .ok true) <->
      asksForAll form = true ∨
        user.subscriptionStatus = compiler.settings.subscribedStatus := by
  unfold Parts.subscribed
  cases asksForAll form
  · simp [subscription, Predicate.holds, User.column]
  · simp

theorem wants_iff {compiler : Compiler} {form : Form} {parts : Parts}
    (h : compiler.parts form = .ok parts) (user : User) :
    compiler.Wants form user <->
      ((forall group, group ∈ parts.groups -> group.items = []) ∨
          exists group, group ∈ parts.groups ∧ group.items ≠ [] ∧
            compiler.MeetsGroup user group) ∧
        (forall narrowing, narrowing ∈ parts.overrides form ->
          narrowing.predicate.holds user = .ok true) ∧
        (forall narrowing, narrowing ∈ parts.extensions ->
          narrowing.predicate.holds user = .ok true) ∧
        (forall narrowing, narrowing ∈ Parts.subscribed compiler form ->
          narrowing.predicate.holds user = .ok true) := by
  rcases parts_eq_ok h with ⟨hgroups, _, hids, hextensions⟩
  rcases extensionSearch_eq_ok hextensions with ⟨columns, hcolumns, hmade⟩
  have hmet := forall_extensions_iff hmade fun p => p.holds user = .ok true
  rw [subscribed_met_iff, hmet, Parts.overrides, List.forall_mem_append,
    textSearch_met_iff, idSearch_met_iff hids]
  constructor
  · intro hwants
    rcases hwants.groups with ⟨groups, hfound, hmeets⟩
    rcases hwants.extensions with ⟨others, hothers, hall⟩
    rw [hgroups] at hfound
    rw [hcolumns] at hothers
    cases hfound
    cases hothers
    exact ⟨hmeets, ⟨hwants.text, hwants.ids⟩, hall, hwants.subscription⟩
  · intro hmeets
    rcases hmeets with ⟨hmeets, ⟨htext, hlisted⟩, hall, hsubscription⟩
    exact {
      groups := ⟨parts.groups, hgroups, hmeets⟩
      text := htext
      ids := hlisted
      extensions := ⟨columns, hcolumns, hall⟩
      subscription := hsubscription }

theorem narrowsNothing_iff {compiler : Compiler} {form : Form} {parts : Parts}
    (h : compiler.parts form = .ok parts) :
    compiler.NarrowsNothing form <-> (parts.wanted compiler form).isBaseline = true := by
  rcases parts_eq_ok h with ⟨hgroups, hbuilt, hids, hextensions⟩
  rcases extensionSearch_eq_ok hextensions with ⟨columns, hcolumns, hmade⟩
  have hidle := isUnfiltered_selectionOf (BuiltItem.ofGroups_eq_ok hbuilt)
  have hneutral := forall_extensions_iff hmade fun p => p = .everyone
  have hbaseline : (parts.wanted compiler form).isBaseline = true <->
      (((forall group, group ∈ parts.groups -> group.items = []) ∧
          form.filled? "user_name" = none ∧ form.filled? "user_email" = none ∧
            form.filled? "user_akid" = none) ∧
        forall narrowing, narrowing ∈ parts.extensions ->
          narrowing.predicate = .everyone) ∧
      compiler.settings.reportColumns = false := by
    rw [Plan.isBaseline, Bool.and_assoc, Bool.and_eq_true, wanted_shown_iff,
      wanted_selection, Predicate.isUnfiltered_foldl_and, Predicate.isUnfiltered_foldl_and,
      Bool.and_eq_true, Bool.and_eq_true, hidle, overrides_unfiltered_iff hids]
    simp [Predicate.isUnfiltered_eq_true]
  rw [hbaseline, hneutral]
  constructor
  · intro hnothing
    rcases hnothing.groups with ⟨groups, hfound, hempty⟩
    rcases hnothing.extensions with ⟨others, hothers, hall⟩
    rw [hgroups] at hfound
    rw [hcolumns] at hothers
    cases hfound
    cases hothers
    exact ⟨⟨⟨hempty, hnothing.name, hnothing.email, hnothing.ids⟩, hall⟩,
      hnothing.columns⟩
  · intro hall
    rcases hall with ⟨⟨⟨hempty, hname, hemail, hakid⟩, hall⟩, hshown⟩
    exact {
      columns := hshown
      groups := ⟨parts.groups, hgroups, hempty⟩
      name := hname
      email := hemail
      ids := hakid
      extensions := ⟨columns, hcolumns, hall⟩ }

private theorem tells_wanted {compiler : Compiler} {form : Form} {parts : Parts}
    (h : compiler.parts form = .ok parts) (user : User) :
    Predicate.Tells ((parts.wanted compiler form).selection.holds user)
      ((((forall group, group ∈ parts.groups -> group.items = []) ∨
          exists group, group ∈ parts.groups ∧ group.items ≠ [] ∧
            compiler.MeetsGroup user group) ∧
        (forall narrowing, narrowing ∈ parts.overrides form ->
          narrowing.predicate.holds user = .ok true)) ∧
        (forall narrowing, narrowing ∈ parts.extensions ->
          narrowing.predicate.holds user = .ok true)) := by
  rcases parts_eq_ok h with ⟨_, hbuilt, _, _⟩
  have hgroups : Predicate.Tells ((selectionOf parts.built).holds user) _ :=
    tells_selectionOf (BuiltItem.ofGroups_eq_ok hbuilt)
  have hoverrides :=
    Predicate.tells_foldl_and hgroups ((parts.overrides form).map (·.predicate))
  have hall :=
    Predicate.tells_foldl_and hoverrides (parts.extensions.map (·.predicate))
  rw [List.forall_mem_map, List.forall_mem_map, ← wanted_selection] at hall
  exact hall

/--
The plan of a request selects exactly the users that meet everything the request asks for.
Deciding it on a user gives an answer unless a total of orders is out of range.
-/
theorem assemble_selects_iff_wants {compiler : Compiler} {form : Form}
    {assembled : Assembled} (hmodifier : compiler.modifier = none)
    (hassemble : compiler.assemble form = .ok assembled) (user : User) :
    (user.HasTotals ->
        exists answer, assembled.plan.selection.holds user = .ok answer) ∧
      forall answer, assembled.plan.selection.holds user = .ok answer ->
        (answer = true <->
          compiler.Wants form user ∧ ¬ compiler.NarrowsNothing form) := by
  constructor
  · intro htotals
    exact Predicate.holds_isOk htotals _
  · rcases parts_of_assemble hassemble with ⟨parts, hparts, rfl⟩
    have hselection : (parts.assembled compiler form).plan.selection =
        ((Parts.subscribed compiler form).map (·.predicate)).foldl Predicate.and
          (guarded (parts.wanted compiler form)).selection := by
      rw [← narrowed_selection]
      simp only [Parts.assembled, Parts.modified, hmodifier, Plan.distinct]
    rw [hselection, wants_iff hparts, narrowsNothing_iff hparts]
    cases hbaseline : (parts.wanted compiler form).isBaseline with
    | true =>
        -- The guard has put nobody in place of everybody.
        have hguarded : (guarded (parts.wanted compiler form)).selection = .nobody := by
          rw [guarded, if_pos hbaseline]
          rfl
        have hnobody : Predicate.Tells (Predicate.nobody.holds user) False :=
          Predicate.tells_ok (by simp)
        rw [hguarded]
        refine Predicate.tells_congr (Predicate.tells_foldl_and hnobody _) ?_
        simp
    | false =>
        have hguarded : guarded (parts.wanted compiler form) =
            parts.wanted compiler form := by
          rw [guarded, if_neg (by rw [hbaseline]; exact Bool.false_ne_true)]
        rw [hguarded]
        refine Predicate.tells_congr
          (Predicate.tells_foldl_and (tells_wanted hparts user) _) ?_
        rw [List.forall_mem_map]
        simp [and_assoc]

/-- Asks for two listed users, unless they live in the country. -/
def listedAbroad : Form :=
  ⟨[("include:1", "country"), ("1_country", "US"), ("1_country_istoggle", "0"),
    ("user_akid", "7, 8")]⟩

theorem assemble_selects_listedAbroad :
    exists assembled, (standalone {}).modifier = none ∧
      (standalone {}).assemble listedAbroad = .ok assembled ∧
      (User.unknown 7 "subscribed").HasTotals ∧
      assembled.plan.selection.holds (User.unknown 7 "subscribed") = .ok true ∧
      (standalone {}).Wants listedAbroad (User.unknown 7 "subscribed") ∧
      ¬ (standalone {}).NarrowsNothing listedAbroad := by
  have hrun : ((standalone {}).assemble listedAbroad).map
      (fun assembled => assembled.plan.selection.holds (User.unknown 7 "subscribed")) =
        .ok (.ok true) := by
    rfl
  have htotals : (User.unknown 7 "subscribed").HasTotals :=
    User.unknown_hasTotals 7 "subscribed"
  cases hassemble : (standalone {}).assemble listedAbroad with
  | error cause =>
      rw [hassemble] at hrun
      cases hrun
  | ok assembled =>
      rw [hassemble] at hrun
      have hselects :=
        assemble_selects_iff_wants rfl hassemble (User.unknown 7 "subscribed")
      rcases hselects.left htotals with ⟨answer, hanswer⟩
      have htrue : answer = true :=
        Except.ok.inj (hanswer.symm.trans (Except.ok.inj hrun))
      rw [htrue] at hanswer
      exact ⟨assembled, rfl, rfl, htotals, hanswer, (hselects.right true hanswer).mp rfl⟩

end Compiler
end Audience
