import Audience.Proofs.Accounts
import Audience.Proofs.ColumnCatalog
import Audience.Proofs.ColumnKinds

/-!
# What columns add to a plan

## Conjoined parts

Predicates are conjoined by putting their parts one behind the other.  One that narrows
nothing has no parts, so nothing is lost and nothing moves.
-/

namespace Audience

namespace Predicate

/-- The parts that a predicate conjoins. -/
def links : Predicate -> List Predicate
  | everyone => []
  | all parts => parts
  | p => [p]

private theorem links_eq_conjuncts {p : Predicate} (h : p ≠ everyone) : p.links = p.conjuncts := by
  cases p with
  | everyone =>
      exact absurd rfl h
  | _ =>
      rfl

private theorem links_and (p q : Predicate) : (p.and q).links = p.links ++ q.links := by
  unfold Predicate.and
  split
  · rfl
  · exact (List.append_nil _).symm
  · rename_i hp hq
    rw [links_eq_conjuncts hp, links_eq_conjuncts hq]
    rfl

theorem links_foldl_and (p : Predicate) (qs : List Predicate) :
    (qs.foldl Predicate.and p).links = p.links ++ qs.flatMap links := by
  induction qs generalizing p with
  | nil =>
      exact (List.append_nil _).symm
  | cons q qs ih =>
      rw [List.foldl_cons, ih, links_and, List.append_assoc, List.flatMap_cons]

end Predicate

/-!
## Refused columns
-/

namespace ExtensionRegistry

/-- Why no condition can be made of a column: its kind is not there, or refuses it. -/
inductive Refuses (registry : ExtensionRegistry) (column : ExtensionColumn) :
    RequestError -> Prop where
  | kind (hkind : column.kind ∉ registry.factories.map Prod.fst) :
      Refuses registry column (.unknownColumnKind column.name column.kind)
  | parameters {factory : ExtensionFactory} {cause : RequestError}
      (hkind : registry.factories.lookup column.kind = some factory)
      (hcause : factory column = .error cause) :
      Refuses registry column cause

theorem load_eq_error {registry : ExtensionRegistry} {column : ExtensionColumn}
    {cause : RequestError} :
    registry.load column = .error cause <-> registry.Refuses column cause := by
  unfold load
  constructor
  · intro h
    cases hkind : registry.factories.lookup column.kind with
    | none =>
        rw [hkind] at h
        cases h
        exact .kind (lookup_eq_none.mp hkind)
    | some factory =>
        rw [hkind] at h
        exact .parameters hkind h
  · intro h
    cases h with
    | kind hkind =>
        rw [lookup_eq_none.mpr hkind]
    | parameters hkind hcause =>
        rw [hkind]
        exact hcause

end ExtensionRegistry

/-!
## The step of the columns

Between the searches and the guard the columns add their conditions to the plan and their
lines to the description.
-/

/-- What conditions add to a plan and its description, in their order: everything that was
there stays in front of it. -/
structure Extends (before : Assembled) (extensions : List Extension) (after : Assembled) :
    Prop where
  links :
    after.plan.selection.links =
      before.plan.selection.links ++ extensions.flatMap (·.predicate.links)
  plan :
    after.plan = { before.plan with
      selection := (extensions.map (·.predicate)).foldl Predicate.and before.plan.selection }
  description :
    after.description =
      before.description ++
        String.join (extensions.map fun extension => "\n and " ++ extension.phrase)

theorem Extends.unique {before after other : Assembled} {extensions : List Extension}
    (h : Extends before extensions after) (hother : Extends before extensions other) :
    after = other := by
  rcases after with ⟨plan, description⟩
  rcases other with ⟨otherPlan, otherDescription⟩
  rw [Assembled.mk.injEq]
  exact ⟨h.plan.trans hother.plan.symm, h.description.trans hother.description.symm⟩

namespace Compiler

def searched (compiler : Compiler) (form : Form) : Except SearchError Assembled := do
  let groups ← (FilterGroup.ofForm form compiler.catalog).mapError .request
  let built ← BuiltItem.ofGroups compiler.sources compiler.catalog groups
  let ids ← (idSearch? form).mapError .request
  let overrides := (textSearch? form).toList ++ ids.toList
  let plan := narrowed (Plan.baseline.filter (selectionOf built)) overrides
  return {
    plan := if compiler.settings.reportColumns then plan.withColumns reportColumns else plan
    description := groupPhrase built ++ String.join (overrides.map (·.line)) }

def addColumns (compiler : Compiler) (form : Form) (before : Assembled) :
    Except SearchError Assembled :=
  (compiler.extensionSearch form).map fun added =>
    ⟨narrowed before.plan added, before.description ++ String.join (added.map (·.line))⟩

/-- What the guard, the modifier and the subscription leave of a plan, with its
description. -/
def finished (compiler : Compiler) (form : Form) (after : Assembled) : Assembled :=
  let modified :=
    match compiler.modifier with
    | some modify => modify (guarded after.plan)
    | none => guarded after.plan
  let subscribed := if asksForAll form then [] else [subscription compiler.settings]
  ⟨(narrowed modified subscribed).distinct,
    after.description ++ String.join (subscribed.map (·.line))⟩

theorem description_append (phrase : String) (overrides extensions subscribed : List Narrowing) :
    phrase ++ String.join ((overrides ++ extensions ++ subscribed).map (·.line)) =
      phrase ++ String.join (overrides.map (·.line)) ++ String.join (extensions.map (·.line)) ++
        String.join (subscribed.map (·.line)) := by
  simp only [List.map_append, String.join_append, String.append_assoc]

theorem assemble_eq_addColumns (compiler : Compiler) (form : Form) :
    compiler.assemble form =
      compiler.searched form >>= fun before =>
        compiler.addColumns form before >>= fun after =>
          pure (compiler.finished form after) := by
  unfold assemble searched addColumns
  rcases (FilterGroup.ofForm form compiler.catalog).mapError SearchError.request with
    cause | groups
  · rfl
  simp only [bind, Except.bind]
  rcases BuiltItem.ofGroups compiler.sources compiler.catalog groups with cause | built
  · rfl
  rcases (idSearch? form).mapError SearchError.request with cause | ids
  · rfl
  rcases compiler.extensionSearch form with cause | extensions
  · rfl
  have hlines := description_append (groupPhrase built)
    ((textSearch? form).toList ++ ids.toList) extensions
    (if asksForAll form then [] else [subscription compiler.settings])
  exact congrArg (fun description => Except.ok (Assembled.mk _ description)) hlines

def withCatalog (compiler : Compiler) (rows : List ExtensionColumn) : Compiler :=
  { compiler with columns := .ofColumns rows }

variable {compiler : Compiler} {rows chosen : List ExtensionColumn} {form : Form}

theorem exists_requestedColumns (compiler : Compiler) (rows : List ExtensionColumn)
    (form : Form) :
    exists chosen, ChosenFrom rows form chosen ∧
      (compiler.withCatalog rows).requestedColumns form = .ok chosen := by
  rcases load_ofColumns rows form with ⟨chosen, hchosen, hload⟩
  refine ⟨chosen, hchosen, ?_⟩
  unfold requestedColumns
  cases hnames : form.filledValues "column" with
  | nil =>
      -- The catalog is not asked, and it would have found nothing.
      rw [hnames] at hload
      rw [← hload]
      simp [ColumnStore.ofColumns]
  | cons name names =>
      rw [hnames] at hload
      exact hload

private theorem requestedColumns_withCatalog (h : ChosenFrom rows form chosen) :
    (compiler.withCatalog rows).requestedColumns form = .ok chosen := by
  rcases compiler.exists_requestedColumns rows form with ⟨found, hfound, hrequested⟩
  rw [← h.unique hfound]
  exact hrequested

theorem extensionSearch_withCatalog (h : ChosenFrom rows form chosen) :
    (compiler.withCatalog rows).extensionSearch form =
      (extensionsOf compiler.extensions chosen).mapError .request := by
  rw [extensionSearch_eq, requestedColumns_withCatalog h]
  rfl

private theorem extensionsOf_of_loaded {registry : ExtensionRegistry}
    {columns : List ExtensionColumn}
    {extensions : List Extension} (h : Account.LoadedFrom registry columns extensions) :
    extensionsOf registry columns = .ok (extensions.map columnNarrowing) := by
  induction h with
  | nil =>
      rfl
  | cons hfirst _ ih =>
      rw [extensionsOf, hfirst, ih]
      rfl

private theorem extends_narrowed (before : Assembled) (extensions : List Extension) :
    Extends before extensions
      ⟨narrowed before.plan (extensions.map columnNarrowing),
        before.description ++
          String.join ((extensions.map columnNarrowing).map (·.line))⟩ := by
  have hpredicates : (extensions.map columnNarrowing).map (·.predicate) =
      extensions.map (·.predicate) := by
    rw [List.map_map]
    rfl
  have hselection : (narrowed before.plan (extensions.map columnNarrowing)).selection =
      (extensions.map (·.predicate)).foldl Predicate.and before.plan.selection := by
    rw [narrowed_selection, hpredicates]
  have hshown := narrowed_shown before.plan (extensions.map columnNarrowing)
  constructor
  · show (narrowed before.plan (extensions.map columnNarrowing)).selection.links = _
    rw [hselection, Predicate.links_foldl_and, List.flatMap_map]
  · rw [← hselection]
    show narrowed before.plan (extensions.map columnNarrowing) =
      ⟨_, before.plan.columns, before.plan.isDistinct⟩
    rw [← hshown.left, ← hshown.right]
  · show _ ++ String.join ((extensions.map columnNarrowing).map (·.line)) = _
    rw [List.map_map]
    rfl

theorem addColumns_eq_ok (h : ChosenFrom rows form chosen) {before after : Assembled} :
    (compiler.withCatalog rows).addColumns form before = .ok after <->
      exists extensions, Account.LoadedFrom compiler.extensions chosen extensions ∧
        Extends before extensions after := by
  unfold addColumns
  rw [extensionSearch_withCatalog h]
  constructor
  · intro hadded
    cases hfound : extensionsOf compiler.extensions chosen with
    | error cause =>
        rw [hfound] at hadded
        cases hadded
    | ok added =>
        rw [hfound] at hadded
        rcases extensionsOf_eq_map hfound with ⟨extensions, hloaded, rfl⟩
        cases hadded
        exact ⟨extensions, hloaded, extends_narrowed before extensions⟩
  · intro h
    rcases h with ⟨extensions, hloaded, hextends⟩
    rw [extensionsOf_of_loaded hloaded, hextends.unique (extends_narrowed before extensions)]
    rfl

theorem addColumns_eq_error (h : ChosenFrom rows form chosen) {before : Assembled}
    {cause : SearchError} :
    (compiler.withCatalog rows).addColumns form before = .error cause <->
      exists inner, FirstFails compiler.extensions.load chosen inner ∧
        cause = .request inner := by
  unfold addColumns
  rw [extensionSearch_withCatalog h, map_eq_error, mapError_eq_error]
  simp only [(extensionsOf_takesInOrder compiler.extensions).eq_error_iff, eq_comm]

theorem addColumns_fails_iff (h : ChosenFrom rows form chosen) (before : Assembled) :
    ¬ Succeeds ((compiler.withCatalog rows).addColumns form before) <->
      exists column, column ∈ chosen ∧
        exists inner, compiler.extensions.Refuses column inner := by
  unfold addColumns
  rw [extensionSearch_withCatalog h, succeeds_map, succeeds_mapError,
    (extensionsOf_takesInOrder compiler.extensions).succeeds_iff]
  push Not
  apply exists_congr
  intro column
  apply and_congr_right
  intro _
  simp only [← ExtensionRegistry.load_eq_error]
  cases compiler.extensions.load column <;> simp [Succeeds]

private theorem addColumns_of_no_names (h : forall name, ¬ form.NamesColumn name)
    (compiler : Compiler) (before : Assembled) :
    compiler.addColumns form before = .ok before := by
  have hnames : form.filledValues "column" = [] := by
    rw [List.eq_nil_iff_forall_not_mem]
    intro name hname
    exact h name ((form.mem_filledValues_column name).mp hname)
  unfold addColumns extensionSearch
  rw [hnames]
  show Except.ok (Assembled.mk before.plan (before.description ++ String.join [])) = _
  rw [String.join_nil, String.append_empty]

/--
The columns that a request names are found in the catalog, each row once, in the order of
their ids and with one id in the order of the catalog, whatever the order and the number of
the requests for them.  Their conditions are conjoined behind everything the plan has, and
their lines put behind the description.  The first of these rows of which no condition can be
made decides the error.  Nothing is asked for if the request names no column, and a
compilation takes this step between the searches and the guard.
-/
theorem columns_apply_once_in_catalog_order (compiler : Compiler)
    (rows : List ExtensionColumn) (form : Form) :
    (exists chosen, ChosenFrom rows form chosen ∧
      (forall other, ChosenFrom rows form other -> other = chosen) ∧
      forall before,
        (forall after,
          (compiler.withCatalog rows).addColumns form before = .ok after <->
            exists extensions, Account.LoadedFrom compiler.extensions chosen extensions ∧
              Extends before extensions after) ∧
        (forall cause,
          (compiler.withCatalog rows).addColumns form before = .error cause <->
            exists inner, FirstFails compiler.extensions.load chosen inner ∧
              cause = .request inner) ∧
        (¬ Succeeds ((compiler.withCatalog rows).addColumns form before) <->
          exists column, column ∈ chosen ∧
            exists inner, compiler.extensions.Refuses column inner)) ∧
    (forall other : Form,
      (forall name, other.NamesColumn name <-> form.NamesColumn name) ->
        forall before, (compiler.withCatalog rows).addColumns other before =
          (compiler.withCatalog rows).addColumns form before) ∧
    ((forall name, ¬ form.NamesColumn name) ->
      forall store before,
        { compiler with columns := store }.addColumns form before = .ok before) ∧
    (forall column cause,
      compiler.extensions.load column = .error cause <->
        compiler.extensions.Refuses column cause) ∧
    (forall column extension, ExtensionRegistry.standard.load column = .ok extension <->
      column.Makes extension.predicate ∧ extension.phrase = column.displayName) ∧
    (forall column cause, ExtensionRegistry.standard.load column = .error cause <->
      (column.kind ∉ ExtensionColumn.standardKinds ∧
          cause = .unknownColumnKind column.name column.kind) ∨
        (column.kind ∈ ExtensionColumn.standardKinds ∧ (forall p, ¬ column.Makes p) ∧
          cause = .invalidColumnParameters column.name column.parameters)) ∧
    compiler.assemble form =
      compiler.searched form >>= fun before =>
        compiler.addColumns form before >>= fun after =>
          pure (compiler.finished form after) := by
  rcases compiler.exists_requestedColumns rows form with ⟨chosen, hchosen, _⟩
  refine ⟨⟨chosen, hchosen, fun other => hchosen.unique, fun before => ⟨?_, ?_, ?_⟩⟩, ?_, ?_,
    fun _ _ => ExtensionRegistry.load_eq_error,
    fun _ _ => ExtensionColumn.load_standard_eq_ok,
    fun _ _ => ExtensionColumn.load_standard_eq_error, compiler.assemble_eq_addColumns form⟩
  · intro after
    exact addColumns_eq_ok hchosen
  · intro cause
    exact addColumns_eq_error hchosen
  · exact addColumns_fails_iff hchosen before
  · intro other hsame before
    unfold addColumns
    rw [extensionSearch_withCatalog hchosen,
      extensionSearch_withCatalog (hchosen.of_same_names hsame)]
  · intro hnone store before
    exact addColumns_of_no_names hnone _ before

end Compiler
end Audience
