import Audience.Proofs.GroupIsolation
import Audience.Proofs.QueryText

/-!
# Groups that are written down

## Fields of groups

A filter is written as its name under the marker of its group, and as its values, its toggle
and its companions under keys of their own.  These begin with the number of the group and the
name of the filter.
-/

namespace Audience

open FilterGroup (toggleSuffix number? keyUnder endings)

namespace FilterItem

def parts (item : FilterItem) : List (String × String) :=
  item.values.map (fun value => ("", value)) ++
    (toggleSuffix, if item.included then "1" else "0") ::
      item.companions.map fun companion => (companionMark ++ companion.1, companion.2)

def fields (key number : String) (item : FilterItem) : List (String × String) :=
  (key, item.name) ::
    item.parts.map fun part => (keyUnder number (item.name ++ part.1), part.2)

/-- The filter belongs to the catalog, and nothing that is said of it is blank.  Its companions
are a map, listed in the order in which the catalog declares them. -/
structure Writable (catalog : Catalog) (item : FilterItem) : Prop where
  values : item.values ≠ []
  filled : forall value, value ∈ item.values -> Text.blank value = false
  declared : exists spec, catalog.get? item.name = some spec ∧
    (item.companions.map Prod.fst).Sublist spec.companions
  companions : forall companion, companion ∈ item.companions -> Text.blank companion.2 = false

end FilterItem

namespace FilterGroup

def fields (group : FilterGroup) : List (String × String) :=
  group.items.flatMap (FilterItem.fields group.key ((number? group.key).getD ""))

/-- The form that asks for the groups. -/
def toForm (groups : List FilterGroup) : Form :=
  ⟨groups.flatMap fields⟩

structure Writable (catalog : Catalog) (group : FilterGroup) : Prop where
  number : exists number, number? group.key = some number
  items : group.items ≠ []
  names : (group.items.map (·.name)).Nodup
  writable : forall item, item ∈ group.items -> item.Writable catalog

structure AreWritable (catalog : Catalog) (groups : List FilterGroup) : Prop where
  keys : (groups.map (·.key)).Nodup
  groups : forall group, group ∈ groups -> group.Writable catalog

end FilterGroup

/-- The fields change places, but the values of each key keep their order, and so do the
markers of groups. -/
structure Form.Rearranged (form other : Form) : Prop where
  fields : other.pairs.Perm form.pairs
  values : forall key, key ∈ form.keys -> other.values key = form.values key
  markers : other.keys.filter (fun key => (number? key).isSome) =
    form.keys.filter fun key => (number? key).isSome

/-!
## Catalogs that can be written in

No two keys of filters are the same, and no name is taken for a companion or a toggle.
-/

namespace Catalog

structure Legible (catalog : Catalog) : Prop where
  apart : forall spec, spec ∈ catalog.specs -> forall other, other ∈ catalog.specs ->
    forall ending, ending ∈ "" :: endings catalog spec.name ->
      forall later, later ∈ "" :: endings catalog other.name ->
        spec.name ++ ending = other.name ++ later -> spec.name = other.name
  listed : forall spec, spec ∈ catalog.specs ->
    spec.name ≠ "" ∧ ¬ toggleSuffix.toList <:+ spec.name.toList
  companions : forall spec, spec ∈ catalog.specs -> spec.companions.Nodup

variable {catalog : Catalog} {name : String} {spec : FilterSpec}

theorem mem_endings_of_companion {companion : String} (h : catalog.get? name = some spec)
    (hcompanion : companion ∈ spec.companions) :
    companionMark ++ companion ∈ "" :: endings catalog name := by
  rw [endings, h]
  exact List.mem_cons_of_mem _ (List.mem_cons_of_mem _ (List.mem_map_of_mem hcompanion))

theorem Legible.name_eq {first second ending later : String} {other : FilterSpec}
    (h : catalog.Legible) (hfirst : catalog.get? first = some spec)
    (hsecond : catalog.get? second = some other)
    (hending : ending ∈ "" :: endings catalog first)
    (hlater : later ∈ "" :: endings catalog second)
    (heq : first ++ ending = second ++ later) :
    first = second := by
  rcases mem_specs_of_get? hfirst with ⟨hspec, rfl⟩
  rcases mem_specs_of_get? hsecond with ⟨hother, rfl⟩
  exact h.apart spec hspec other hother ending hending later hlater heq

theorem Legible.isCompanion_eq_false (h : catalog.Legible)
    (hname : catalog.get? name = some spec) :
    catalog.isCompanion name = false := by
  unfold isCompanion
  split
  · rename_i primary companion hcut
    split
    · rename_i owner howner
      rw [← Bool.not_eq_true, List.contains_iff_mem]
      intro hcompanion
      have heq := Text.cutString?_eq_some hcut
      -- The name would be a key of the filter that it is a companion of.
      have hsame : name = primary := by
        apply h.name_eq hname howner List.mem_cons_self (mem_endings_of_companion howner hcompanion)
        rw [String.append_empty, heq, String.append_assoc]
      rw [hsame, String.append_assoc] at heq
      have hlength := congrArg String.length heq
      simp [companionMark] at hlength
    · rfl
  · rfl

theorem legible_standard : standard.Legible := by
  refine ⟨?_, by decide, by decide⟩
  set_option maxRecDepth 10000 in
  decide

end Catalog

namespace Form

/-!
## Values under the keys of one entry
-/

@[simp] theorem values_append (fields others : List (String × String)) (key : String) :
    (Form.mk (fields ++ others)).values key =
      (Form.mk fields).values key ++ (Form.mk others).values key := by
  rw [values, List.filter_append, List.map_append]
  rfl

theorem values_flatMap (entries : List α) (fields : α -> List (String × String))
    (key : String) :
    (Form.mk (entries.flatMap fields)).values key =
      entries.flatMap fun entry => (Form.mk (fields entry)).values key := by
  rw [values, List.filter_flatMap, List.map_flatMap]
  rfl

theorem values_map (rename : String -> String) {key : String}
    (h : forall other, rename other = rename key -> other = key)
    (fields : List (String × String)) :
    (Form.mk (fields.map fun field => (rename field.1, field.2))).values (rename key) =
      (Form.mk fields).values key := by
  rw [values, values, List.filter_map, List.map_map]
  have hsame : forall other, (rename other == rename key) = (other == key) := by
    intro other
    rw [Bool.eq_iff_iff, beq_iff_eq, beq_iff_eq]
    exact ⟨h other, congrArg rename⟩
  simp only [Function.comp_def, hsame]

theorem last?_eq_lookup {fields : List (String × String)} (h : (fields.map Prod.fst).Nodup)
    (key : String) :
    (Form.mk fields).last? key = fields.lookup key := by
  induction fields with
  | nil =>
      rfl
  | cons field fields ih =>
      rw [List.map_cons, List.nodup_cons] at h
      have hrest := ih h.right
      rw [last?, values] at hrest ⊢
      rw [List.lookup_cons]
      by_cases heq : field.1 = key
      · subst heq
        have hnone : (fields.filter fun later => later.1 == field.1) = [] := by
          rw [List.filter_eq_nil_iff]
          intro later hlater
          rw [beq_iff_eq]
          intro hlast
          exact h.left (hlast ▸ List.mem_map_of_mem hlater)
        rw [List.filter_cons_of_pos (by simp), hnone]
        simp
      · rw [List.filter_cons_of_neg (by simp [heq]), hrest,
          beq_eq_false_iff_ne.mpr (Ne.symm heq)]

theorem filled?_eq_last? {form : Form} {key : String}
    (h : forall field, field ∈ form.pairs -> Text.blank field.2 = false) :
    form.filled? key = form.last? key := by
  rw [filled?]
  cases hlast : form.last? key with
  | none =>
      rfl
  | some last =>
      rcases List.mem_map.mp (List.mem_of_getLast? hlast) with ⟨field, hfield, rfl⟩
      rw [Option.filter_some, h field (List.mem_of_mem_filter hfield)]
      rfl

end Form

theorem flatMap_of_nodup {name : α -> β} {found : α -> List γ} {entries : List α} {entry : α}
    (hnodup : (entries.map name).Nodup) (hentry : entry ∈ entries)
    (hothers : forall other, other ∈ entries -> name other ≠ name entry -> found other = []) :
    entries.flatMap found = found entry := by
  induction entries with
  | nil =>
      cases hentry
  | cons first entries ih =>
      rw [List.map_cons, List.nodup_cons] at hnodup
      rw [List.forall_mem_cons] at hothers
      rw [List.flatMap_cons]
      rcases List.mem_cons.mp hentry with rfl | hmem
      · have hrest : entries.flatMap found = [] := by
          rw [List.flatMap_eq_nil_iff]
          intro other hother
          apply hothers.right other hother
          intro heq
          exact hnodup.left (heq ▸ List.mem_map_of_mem hother)
        rw [hrest, List.append_nil]
      · have hfirst : found first = [] := by
          apply hothers.left
          intro heq
          exact hnodup.left (heq ▸ List.mem_map_of_mem hmem)
        rw [hfirst, List.nil_append]
        exact ih hnodup.right hmem hothers.right

theorem filterMap_lookup {names : List String} {fields : List (String × String)}
    (hnodup : names.Nodup) (h : (fields.map Prod.fst).Sublist names) :
    (names.filterMap fun name => (fields.lookup name).map fun value => (name, value)) =
      fields := by
  induction names generalizing fields with
  | nil =>
      rw [List.sublist_nil, List.map_eq_nil_iff] at h
      rw [h]
      rfl
  | cons name names ih =>
      rw [List.nodup_cons] at hnodup
      rcases List.sublist_cons_iff.mp h with hlater | ⟨rest, hfields, hlater⟩
      · have hnone : fields.lookup name = none := by
          rw [List.lookup_eq_none_iff]
          intro field hfield
          rw [bne_iff_ne]
          intro h
          rcases h with rfl
          exact hnodup.left (hlater.subset (List.mem_map_of_mem hfield))
        rw [List.filterMap_cons, hnone]
        exact ih hnodup.right hlater
      · rcases List.map_eq_cons_iff.mp hfields with ⟨field, fields, rfl, rfl, rfl⟩
        have hothers : forall other, other ∈ names ->
            (field :: fields).lookup other = fields.lookup other := by
          intro other hother
          rw [List.lookup_cons, beq_eq_false_iff_ne.mpr]
          intro h
          rcases h with rfl
          exact hnodup.left hother
        rw [List.filterMap_cons, List.lookup_cons_self]
        dsimp only [Option.map_some]
        rw [List.filterMap_congr fun other hother => by rw [hothers other hother],
          ih hnodup.right hlater]

namespace FilterGroup

variable {catalog : Catalog} {groups : List FilterGroup} {group : FilterGroup}
  {item : FilterItem} {key number other rest others : String}

/-!
## Keys of different filters

The number of a group ends at the first underscore of a key, so keys of different groups are
never the same.
-/

theorem keyUnder_inj (hnumber : number? key = some number) {later : String}
    (hother : number? later = some other) (h : keyUnder number rest = keyUnder other others) :
    number = other ∧ rest = others := by
  have hcut : forall {key number : String}, number? key = some number -> forall rest : String,
      Text.cutAt? ['_'] (keyUnder number rest).toList = some (number.toList, rest.toList) := by
    intro key number hnumber rest
    have hdigits : '_' ∉ number.toList := by
      intro hmem
      have hdigit := (number?_eq_some hnumber).right.right '_' hmem
      exact absurd hdigit (by decide)
    rw [keyUnder, String.toList_append, String.toList_append, List.append_assoc]
    exact Text.cutAt?_of_notMem hdigits rest.toList
  have heq := hcut hnumber rest
  rw [h, hcut hother others, Option.some_inj, Prod.mk.injEq, String.toList_inj,
    String.toList_inj] at heq
  exact ⟨heq.left.symm, heq.right.symm⟩

theorem ne_keyUnder (hnumber : number? key = some number) (start rest : String) :
    key ≠ keyUnder start rest := by
  intro h
  rcases h with rfl
  rw [number?_keyUnder] at hnumber
  cases hnumber

theorem key_eq_of_number? {later : String} (hnumber : number? key = some number)
    (hlater : number? later = some number) :
    key = later := by
  rw [(number?_eq_some hnumber).left, (number?_eq_some hlater).left]

/-!
## What is read of one filter
-/

private theorem companionMark_append_ne (companion : String) :
    companionMark ++ companion ≠ "" ∧ companionMark ++ companion ≠ toggleSuffix := by
  constructor
  · simp [companionMark]
  · intro heq
    have hlist := congrArg String.toList heq
    rw [String.toList_append] at hlist
    cases hlist

theorem values_parts (item : FilterItem) :
    (Form.mk item.parts).values "" = item.values ∧
      (Form.mk item.parts).values toggleSuffix = [if item.included then "1" else "0"] ∧
      forall companion : String, (Form.mk item.parts).values (companionMark ++ companion) =
        (Form.mk item.companions).values companion := by
  have hsuffix : ("" == toggleSuffix) = false ∧ (toggleSuffix == "") = false := by decide
  have hmark : forall companion : String, ("" == companionMark ++ companion) = false ∧
      (companionMark ++ companion == "") = false := by
    intro companion
    rw [beq_eq_false_iff_ne, beq_eq_false_iff_ne, ne_comm, and_self]
    exact (companionMark_append_ne companion).left
  have hapart : forall companion : String, (toggleSuffix == companionMark ++ companion) = false ∧
      (companionMark ++ companion == toggleSuffix) = false := by
    intro companion
    rw [beq_eq_false_iff_ne, beq_eq_false_iff_ne, ne_comm, and_self]
    exact (companionMark_append_ne companion).right
  have hsame : forall companion other : String,
      (companionMark ++ other == companionMark ++ companion) = (other == companion) := by
    intro companion other
    rw [Bool.eq_iff_iff, beq_iff_eq, beq_iff_eq, String.append_right_inj]
  refine ⟨?_, ?_, ?_⟩
  · simp [Form.values, FilterItem.parts, List.filter_map, Function.comp_def, hsuffix, hmark]
  · simp [Form.values, FilterItem.parts, List.filter_map, Function.comp_def, hsuffix, hapart]
  · intro companion
    simp [Form.values, FilterItem.parts, List.filter_map, Function.comp_def, hmark, hapart, hsame]

theorem includes_toggle (included : Bool) :
    includes (if included then "1" else "0") = included := by
  cases included <;> rfl

/-- The form says of the filter what is written of it. -/
def Says (form : Form) (catalog : Catalog) (number : String) (item : FilterItem) : Prop :=
  forall ending, ending ∈ "" :: endings catalog item.name ->
    form.values (keyUnder number (item.name ++ ending)) = (Form.mk item.parts).values ending

variable {form : Form} {spec : FilterSpec}

theorem Says.values (h : Says form catalog number item) :
    form.values (keyUnder number item.name) = item.values := by
  have hvalues := h "" List.mem_cons_self
  rwa [String.append_empty, (values_parts item).left] at hvalues

theorem Says.included (h : Says form catalog number item) :
    ((form.last? (keyUnder number item.name ++ toggleSuffix)).map includes).getD true =
      item.included := by
  have htoggle := h toggleSuffix (List.mem_cons_of_mem _ List.mem_cons_self)
  rw [keyUnder, ← String.append_assoc, ← keyUnder, (values_parts item).right.left] at htoggle
  rw [Form.last?, htoggle]
  exact includes_toggle item.included

theorem Says.companions (h : Says form catalog number item) (hitem : item.Writable catalog)
    (hspec : catalog.get? item.name = some spec) (hnodup : spec.companions.Nodup) :
    companionsOf form (keyUnder number item.name) spec = item.companions := by
  rcases hitem.declared with ⟨declared, hdeclared, hsublist⟩
  rw [hspec, Option.some_inj] at hdeclared
  subst hdeclared
  have hfilled : forall companion, companion ∈ spec.companions ->
      form.filled? (keyUnder number item.name ++ companionMark ++ companion) =
        item.companions.lookup companion := by
    intro companion hcompanion
    have hvalues := h _ (Catalog.mem_endings_of_companion hspec hcompanion)
    rw [keyUnder, ← String.append_assoc, ← keyUnder, ← String.append_assoc,
      (values_parts item).right.right] at hvalues
    have hlast := Form.last?_eq_lookup (hnodup.sublist hsublist) companion
    rw [← hlast, ← Form.filled?_eq_last? hitem.companions, Form.filled?, Form.filled?, Form.last?,
      Form.last?, hvalues]
  rw [companionsOf, List.filterMap_congr fun companion hcompanion => by
    rw [hfilled companion hcompanion]]
  exact filterMap_lookup hnodup hsublist

theorem Says.item? (h : Says form catalog number item) (hitem : item.Writable catalog)
    (hlegible : catalog.Legible) :
    FilterGroup.item? form catalog key number item.name = .ok (some item) := by
  rcases hitem.declared with ⟨spec, hspec, _⟩
  have hnodup := hlegible.companions spec (Catalog.mem_specs_of_get? hspec).left
  have hshort : form.has (keyUnder number item.name) = true := by
    rw [← Bool.not_eq_false, Form.has_eq_false_iff, h.values]
    exact hitem.values
  have hstart : prefixOf form key number item.name ++ "_" ++ item.name =
      keyUnder number item.name := by
    rw [prefixOf_eq, hshort, if_pos rfl, keyUnder]
  have hvalues : form.filledValues (keyUnder number item.name) = item.values := by
    rw [Form.filledValues, h.values, List.filter_eq_self]
    intro value hvalue
    rw [hitem.filled value hvalue]
    rfl
  unfold FilterGroup.item?
  dsimp only
  rw [hlegible.isCompanion_eq_false hspec, if_neg Bool.false_ne_true, hstart, hvalues,
    List.isEmpty_eq_false_iff.mpr hitem.values, if_neg Bool.false_ne_true, hspec]
  dsimp only
  rw [h.included, h.companions hitem hspec hnodup]

/-!
## What is read of all groups
-/

theorem fields_eq (hnumber : number? group.key = some number) :
    group.fields = group.items.flatMap (FilterItem.fields group.key number) := by
  rw [fields, hnumber]
  rfl

theorem values_fields_marker {wanted : String} (hwanted : number? wanted = some other) :
    (Form.mk (item.fields key number)).values wanted =
      if key = wanted then [item.name] else [] := by
  have hparts : (Form.mk (item.parts.map fun part =>
      (keyUnder number (item.name ++ part.1), part.2))).values wanted = [] := by
    rw [Form.values_eq_nil_iff]
    intro field hfield
    rcases List.mem_map.mp hfield with ⟨part, _, rfl⟩
    exact (ne_keyUnder hwanted _ _).symm
  rw [FilterItem.fields, ← List.singleton_append, Form.values_append, hparts, List.append_nil]
  by_cases heq : key = wanted <;> simp [Form.values, heq]

theorem values_fields (hnumber : number? key = some number) (ending : String) :
    (Form.mk (item.fields key number)).values (keyUnder number (item.name ++ ending)) =
      (Form.mk item.parts).values ending := by
  have hmarker : (Form.mk [(key, item.name)]).values (keyUnder number (item.name ++ ending)) =
      [] := by
    rw [Form.values_eq_nil_iff]
    intro field hfield
    rw [List.mem_singleton.mp hfield]
    exact ne_keyUnder hnumber _ _
  have hinj : forall later : String,
      keyUnder number (item.name ++ later) = keyUnder number (item.name ++ ending) ->
        later = ending := by
    intro later heq
    rwa [keyUnder, keyUnder, String.append_right_inj, String.append_right_inj] at heq
  rw [FilterItem.fields, ← List.singleton_append, Form.values_append, hmarker, List.nil_append]
  exact Form.values_map (fun part => keyUnder number (item.name ++ part)) hinj item.parts

theorem key_of_mem_fields (hitem : item.Writable catalog) {field : String × String}
    (hfield : field ∈ item.fields key number) :
    field.1 = key ∨ exists ending, ending ∈ "" :: endings catalog item.name ∧
      field.1 = keyUnder number (item.name ++ ending) := by
  rcases hitem.declared with ⟨spec, hspec, hsublist⟩
  rcases List.mem_cons.mp hfield with rfl | hfield
  · exact Or.inl rfl
  right
  rcases List.mem_map.mp hfield with ⟨part, hpart, rfl⟩
  refine ⟨part.1, ?_, rfl⟩
  rcases List.mem_append.mp hpart with hpart | hpart
  · rcases List.mem_map.mp hpart with ⟨value, _, rfl⟩
    exact List.mem_cons_self
  · rcases List.mem_cons.mp hpart with rfl | hpart
    · exact List.mem_cons_of_mem _ List.mem_cons_self
    · rcases List.mem_map.mp hpart with ⟨companion, hcompanion, rfl⟩
      have hdeclared := hsublist.subset (List.mem_map_of_mem hcompanion)
      exact Catalog.mem_endings_of_companion hspec hdeclared

theorem values_toForm_marker (h : AreWritable catalog groups) (hgroup : group ∈ groups) :
    (toForm groups).values group.key = group.items.map (·.name) := by
  rcases (h.groups group hgroup).number with ⟨number, hnumber⟩
  have hothers : forall other, other ∈ groups -> other.key ≠ group.key ->
      (Form.mk other.fields).values group.key = [] := by
    intro other hother hne
    rw [fields, Form.values_flatMap, List.flatMap_eq_nil_iff]
    intro item _
    rw [values_fields_marker hnumber, if_neg hne]
  rw [toForm, Form.values_flatMap, flatMap_of_nodup h.keys hgroup hothers, fields,
    Form.values_flatMap, List.map_eq_flatMap]
  apply List.flatMap_congr
  intro item _
  rw [values_fields_marker hnumber, if_pos rfl]

private theorem values_of_other_group (hgroup : group.Writable catalog)
    (hnumber : number? key = some number) (hne : group.key ≠ key) (rest : String) :
    (Form.mk group.fields).values (keyUnder number rest) = [] := by
  rcases hgroup.number with ⟨digits, hdigits⟩
  rw [fields_eq hdigits, Form.values_flatMap, List.flatMap_eq_nil_iff]
  intro item hitem
  rw [Form.values_eq_nil_iff]
  intro field hfield
  rcases key_of_mem_fields (hgroup.writable item hitem) hfield with hkey | ⟨ending, _, hkey⟩
  · rw [hkey]
    exact ne_keyUnder hdigits _ _
  · rw [hkey]
    intro heq
    rcases keyUnder_inj hdigits hnumber heq with ⟨rfl, _⟩
    exact hne (key_eq_of_number? hdigits hnumber)

private theorem values_of_other_item {other : FilterItem} {ending : String}
    (hlegible : catalog.Legible)
    (hnumber : number? key = some number) (hitem : item.Writable catalog)
    (hother : other.Writable catalog) (hne : other.name ≠ item.name)
    (hending : ending ∈ "" :: endings catalog item.name) :
    (Form.mk (other.fields key number)).values (keyUnder number (item.name ++ ending)) = [] := by
  rcases hitem.declared with ⟨spec, hspec, _⟩
  rcases hother.declared with ⟨otherSpec, hotherSpec, _⟩
  rw [Form.values_eq_nil_iff]
  intro field hfield
  rcases key_of_mem_fields hother hfield with hkey | ⟨later, hlater, hkey⟩
  · rw [hkey]
    exact ne_keyUnder hnumber _ _
  · rw [hkey]
    intro heq
    have hnames := (keyUnder_inj hnumber hnumber heq).right
    exact hne (hlegible.name_eq hotherSpec hspec hlater hending hnames)

theorem says_toForm (hlegible : catalog.Legible) (h : AreWritable catalog groups)
    (hgroup : group ∈ groups) (hnumber : number? group.key = some number)
    (hitem : item ∈ group.items) :
    Says (toForm groups) catalog number item := by
  intro ending hending
  have hwritable := h.groups group hgroup
  have hgroups : forall other, other ∈ groups -> other.key ≠ group.key ->
      (Form.mk other.fields).values (keyUnder number (item.name ++ ending)) = [] := by
    intro other hother hne
    exact values_of_other_group (h.groups other hother) hnumber hne _
  have hitems : forall other, other ∈ group.items -> other.name ≠ item.name ->
      (Form.mk (other.fields group.key number)).values
        (keyUnder number (item.name ++ ending)) = [] := by
    intro other hother hne
    exact values_of_other_item hlegible hnumber (hwritable.writable item hitem)
      (hwritable.writable other hother) hne hending
  rw [toForm, Form.values_flatMap, flatMap_of_nodup h.keys hgroup hgroups, fields_eq hnumber,
    Form.values_flatMap, flatMap_of_nodup hwritable.names hitem hitems, values_fields hnumber]

private theorem isRead_toForm (hlegible : catalog.Legible) (h : AreWritable catalog groups)
    (hgroup : group ∈ groups) :
    IsRead (toForm groups) group.key := by
  have hwritable := h.groups group hgroup
  have hlast := List.getLast?_eq_some_getLast hwritable.items
  have hmem := List.getLast_mem hwritable.items
  rcases (hwritable.writable _ hmem).declared with ⟨spec, hspec, _⟩
  rcases Catalog.mem_specs_of_get? hspec with ⟨hdeclared, hname⟩
  have hlisted := hlegible.listed spec hdeclared
  rw [hname] at hlisted
  refine ⟨(group.items.getLast hwritable.items).name, ?_, hlisted⟩
  rw [Form.last?, values_toForm_marker h hgroup, List.getLast?_map, hlast]
  rfl

private theorem itemsOf_eq_ok {items : List FilterItem}
    (h : forall item, item ∈ items -> item? form catalog key number item.name = .ok (some item)) :
    itemsOf form catalog key number (items.map (·.name)) = .ok items := by
  induction items with
  | nil =>
      rfl
  | cons item items ih =>
      rw [List.forall_mem_cons] at h
      rw [List.map_cons, itemsOf, h.left, ih h.right]
      rfl

theorem readFrom_toForm (hlegible : catalog.Legible) (h : AreWritable catalog groups)
    (hgroup : group ∈ groups) :
    ReadFrom (toForm groups) catalog group := by
  have hwritable := h.groups group hgroup
  rcases hwritable.number with ⟨number, hnumber⟩
  refine ⟨number, listed?_of_isRead hnumber (isRead_toForm hlegible h hgroup), ?_⟩
  rw [values_toForm_marker h hgroup]
  apply itemsOf_eq_ok
  intro item hitem
  exact (says_toForm hlegible h hgroup hnumber hitem).item? (hwritable.writable item hitem)
    hlegible

theorem ofKeys_eq_ok (h : forall group, group ∈ groups -> ReadFrom form catalog group) :
    ofKeys form catalog (groups.map (·.key)) = .ok groups := by
  induction groups with
  | nil =>
      rfl
  | cons group groups ih =>
      rw [List.forall_mem_cons] at h
      rcases h.left with ⟨number, hlisted, hitems⟩
      rw [List.map_cons, ofKeys, hlisted]
      dsimp only
      rw [hitems, ih h.right]
      rfl

/-!
## The order of groups

The marker of a group occurs once for each of its filters, before the marker of the next one.
-/

private theorem markers_fields (hnumber : number? key = some number) :
    ((item.fields key number).map Prod.fst).filter (fun key => (number? key).isSome) =
      [key] := by
  have hparts : ((item.parts.map fun part =>
      (keyUnder number (item.name ++ part.1), part.2)).map Prod.fst).filter
        (fun key => (number? key).isSome) = [] := by
    rw [List.filter_eq_nil_iff]
    intro key hkey
    rw [List.map_map] at hkey
    rcases List.mem_map.mp hkey with ⟨part, _, rfl⟩
    simp
  rw [FilterItem.fields, List.map_cons, List.filter_cons_of_pos (by simp [hnumber]), hparts]

private theorem markers_pairs (h : forall group, group ∈ groups -> group.Writable catalog) :
    ((toForm groups).pairs.map Prod.fst).filter (fun key => (number? key).isSome) =
      groups.flatMap fun group => group.items.map fun _ => group.key := by
  rw [toForm, List.map_flatMap, List.filter_flatMap]
  apply List.flatMap_congr
  intro group hgroup
  rcases (h group hgroup).number with ⟨number, hnumber⟩
  rw [fields_eq hnumber, List.map_flatMap, List.filter_flatMap, List.map_eq_flatMap]
  apply List.flatMap_congr
  intro item _
  exact markers_fields hnumber

private theorem eraseDups_markers (hkeys : (groups.map (·.key)).Nodup)
    (hitems : forall group, group ∈ groups -> group.items ≠ []) :
    (groups.flatMap fun group => group.items.map fun _ => group.key).eraseDups =
      groups.map (·.key) := by
  induction groups with
  | nil =>
      rfl
  | cons group groups ih =>
      rw [List.map_cons, List.nodup_cons] at hkeys
      rw [List.forall_mem_cons] at hitems
      rcases List.exists_cons_of_ne_nil hitems.left with ⟨item, items, hlist⟩
      have hown : ((items.map fun _ => group.key).filter fun later => !later == group.key) =
          [] := by
        simp
      have hothers : ((groups.flatMap fun other => other.items.map fun _ => other.key).filter
          fun later => !later == group.key) =
            groups.flatMap fun other => other.items.map fun _ => other.key := by
        rw [List.filter_eq_self]
        intro later hlater
        rcases List.mem_flatMap.mp hlater with ⟨other, hother, hlater⟩
        rcases List.mem_map.mp hlater with ⟨_, _, rfl⟩
        rw [Bool.not_eq_true', beq_eq_false_iff_ne]
        intro heq
        exact hkeys.left (heq ▸ List.mem_map_of_mem hother)
      rw [List.flatMap_cons, hlist, List.map_cons, List.cons_append, List.eraseDups_cons,
        List.filter_append, hown, List.nil_append, hothers, ih hkeys.right hitems.right,
        List.map_cons]

private theorem markers_toForm (h : AreWritable catalog groups) :
    (toForm groups).keys.filter (fun key => (number? key).isSome) = groups.map (·.key) := by
  rw [Form.keys, filter_eraseDups, markers_pairs h.groups]
  exact eraseDups_markers h.keys fun group hgroup => (h.groups group hgroup).items

theorem ofForm_toForm (hlegible : catalog.Legible) (h : AreWritable catalog groups) :
    ofForm (toForm groups) catalog = .ok groups := by
  rw [ofForm, ← ofKeys_markers, markers_toForm h]
  exact ofKeys_eq_ok fun group hgroup => readFrom_toForm hlegible h hgroup

/-!
## Other arrangements of the fields
-/

private theorem values_rearranged {other : Form} (h : form.Rearranged other) (key : String) :
    other.values key = form.values key := by
  by_cases hkey : key ∈ form.keys
  · exact h.values key hkey
  · have hother : key ∉ other.keys := fun hmem => hkey (Form.mem_keys_of_perm h.fields hmem)
    rw [Form.mem_keys_iff, not_not] at hkey hother
    rw [hkey, hother]

private theorem ofForm_rearranged {other : Form} (h : form.Rearranged other) (catalog : Catalog) :
    ofForm other catalog = ofForm form catalog := by
  rw [ofForm, ofForm, ← ofKeys_markers, h.markers, ofKeys_markers]
  apply ofKeys_congr
  intro key number _
  refine ⟨values_rearranged h key, ?_⟩
  intro name _
  exact item?_eq_of_values (fun _ => values_rearranged h _) (fun _ => values_rearranged h _) name

/--
Groups of filters that are written as a form, and the form as a query text, are read back as
they were, in their order and with all their values, toggles and companions.  The fields may
also come in another order, as long as those of one key and the markers of groups keep theirs.
-/
theorem written_groups_are_read_back (h : AreWritable .standard groups) :
    ofForm (Form.ofQuery (toForm groups).toQuery) .standard = .ok groups ∧
      forall form : Form, (toForm groups).Rearranged form ->
        ofForm (Form.ofQuery form.toQuery) .standard = .ok groups := by
  have hread := ofForm_toForm Catalog.legible_standard h
  constructor
  · rw [Form.ofQuery_toQuery]
    exact hread
  · intro form hform
    rw [Form.ofQuery_toQuery, ofForm_rearranged hform]
    exact hread

/-- Two groups with signs of query texts and other letters among their values. -/
def annAbroad : List FilterGroup :=
  [⟨"include:11", [⟨"zipcode", ["1+1=2?", "&"], true, [("distance", "٢٥%")]⟩]⟩,
    ⟨"include:1", [⟨"country", ["Österreich", "US", "US"], false, []⟩,
      ⟨"contacted_by", ["ann"], true, [("contacted_since", "2020-01-01")]⟩]⟩]

/-- The markers before everything else, and the toggles last. -/
def annAbroadByKind : Form :=
  ⟨[("include:11", "zipcode"), ("include:1", "country"), ("include:1", "contacted_by"),
    ("1_country", "Österreich"), ("1_country", "US"), ("1_country", "US"),
    ("1_contacted_by", "ann"), ("11_zipcode", "1+1=2?"), ("11_zipcode", "&"),
    ("11_zipcode__distance", "٢٥%"), ("1_contacted_by__contacted_since", "2020-01-01"),
    ("1_country_istoggle", "0"), ("1_contacted_by_istoggle", "1"), ("11_zipcode_istoggle", "1")]⟩

theorem written_groups_are_read_back_annAbroad :
    AreWritable .standard annAbroad ∧
      ofForm (Form.ofQuery (toForm annAbroad).toQuery) .standard = .ok annAbroad ∧
      (toForm annAbroad).Rearranged annAbroadByKind ∧
      ofForm (Form.ofQuery annAbroadByKind.toQuery) .standard = .ok annAbroad := by
  have hwritable : AreWritable .standard annAbroad := by
    refine ⟨by decide, ?_⟩
    rw [annAbroad, List.forall_mem_cons, List.forall_mem_singleton]
    constructor
    · refine ⟨⟨"11", rfl⟩, by decide, by decide, ?_⟩
      rw [List.forall_mem_singleton]
      exact ⟨by decide, by decide, ⟨_, rfl, by decide⟩, by decide⟩
    · refine ⟨⟨"1", rfl⟩, by decide, by decide, ?_⟩
      rw [List.forall_mem_cons, List.forall_mem_singleton]
      constructor
      · exact ⟨by decide, by decide, ⟨_, rfl, by decide⟩, by decide⟩
      · exact ⟨by decide, by decide, ⟨_, rfl, by decide⟩, by decide⟩
  have hrearranged : (toForm annAbroad).Rearranged annAbroadByKind :=
    ⟨by decide, by decide, by decide⟩
  have hread := written_groups_are_read_back hwritable
  exact ⟨hwritable, hread.left, hrearranged, hread.right _ hrearranged⟩

end FilterGroup
end Audience
