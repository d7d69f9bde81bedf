import Audience.Proofs.GroupIsolation
import Audience.Proofs.ShownColumns

/-!
# Requests in another order

## The same fields in another order

The markers of groups may come in any order, and the names that one of them lists as well.
The values of every other key keep their order, but not their places.
-/

namespace Audience

open FilterGroup (number? keyUnder)

namespace Form

/-- The fields change places, but no key has its values in another order unless it is the
marker of a group. -/
structure Reordered (form other : Form) : Prop where
  fields : other.pairs.Perm form.pairs
  others : forall key, number? key = none -> other.values key = form.values key

/-- Every marker of a group names a filter wherever it occurs. -/
def NamesFilters (form : Form) : Prop :=
  forall field, field ∈ form.pairs -> number? field.1 ≠ none ->
    Text.blank field.2 = false ∧ ¬ FilterGroup.toggleSuffix.toList <:+ field.2.toList

instance (form : Form) : Decidable form.NamesFilters :=
  inferInstanceAs (Decidable (forall field, field ∈ form.pairs -> _))

variable {form other : Form}

theorem Reordered.symm (h : Reordered form other) : Reordered other form :=
  ⟨h.fields.symm, fun key hkey => (h.others key hkey).symm⟩

theorem Reordered.namesFilters (h : Reordered form other) (hnames : form.NamesFilters) :
    other.NamesFilters :=
  fun field hfield => hnames field (h.fields.subset hfield)

end Form

namespace FilterGroup

variable {form other : Form} {catalog : Catalog} {key number : String}

/-!
## Groups in another order
-/

private theorem isRead_of_namesFilters (hnames : form.NamesFilters)
    (hnumber : number? key = some number)
    (hkey : key ∈ form.keys) :
    IsRead form key := by
  rw [Form.mem_keys_iff] at hkey
  have hlast := List.getLast?_eq_some_getLast hkey
  rcases List.mem_map.mp (List.getLast_mem hkey) with ⟨field, hfield, hvalue⟩
  rw [List.mem_filter, beq_iff_eq] at hfield
  have hmarker : number? field.1 ≠ none := by
    rw [hfield.right, hnumber]
    exact Option.some_ne_none number
  rcases hnames field hfield.left hmarker with ⟨hblank, hsuffix⟩
  rw [hvalue] at hblank hsuffix
  refine ⟨_, hlast, ?_, hsuffix⟩
  intro hempty
  rw [hempty] at hblank
  exact Bool.noConfusion hblank

theorem listed?_reordered (h : Form.Reordered form other) (hnames : form.NamesFilters)
    (hlisted : listed? form key = some number) :
    listed? other key = some number := by
  rcases listed?_eq_some.mp hlisted with ⟨hnumber, last, hlast, _⟩
  have hkey := Form.mem_keys_of_perm h.fields.symm (Form.mem_keys_of_last? hlast)
  exact listed?_of_isRead hnumber (isRead_of_namesFilters (h.namesFilters hnames) hnumber hkey)

private theorem item?_reordered (h : Form.Reordered form other) (name : String) :
    item? other catalog key number name = item? form catalog key number name :=
  item?_eq_of_values (fun rest => h.others _ (number?_keyUnder number rest))
    (fun rest => h.others _ (number?_keyUnder key rest)) name

private theorem itemsOf_perm {names others : List String} {items : List FilterItem}
    (h : others.Perm names) (hitems : itemsOf form catalog key number names = .ok items) :
    exists found, itemsOf form catalog key number others = .ok found ∧ found.Perm items := by
  induction h generalizing items with
  | nil =>
      exact ⟨items, hitems, List.Perm.refl items⟩
  | cons name _ ih =>
      unfold itemsOf at hitems
      rcases bind_eq_ok.mp hitems with ⟨first, hfirst, hitems⟩
      rcases bind_eq_ok.mp hitems with ⟨rest, hrest, hitems⟩
      cases hitems
      rcases ih hrest with ⟨found, hfound, hperm⟩
      refine ⟨first.toList ++ found, ?_, hperm.append_left _⟩
      rw [itemsOf, hfirst, hfound]
      rfl
  | swap name next names =>
      unfold itemsOf at hitems
      rcases bind_eq_ok.mp hitems with ⟨first, hfirst, hitems⟩
      rcases bind_eq_ok.mp hitems with ⟨rest, hrest, hitems⟩
      unfold itemsOf at hrest
      rcases bind_eq_ok.mp hrest with ⟨second, hsecond, hrest⟩
      rcases bind_eq_ok.mp hrest with ⟨last, hlast, hrest⟩
      cases hrest
      cases hitems
      refine ⟨second.toList ++ (first.toList ++ last), ?_, ?_⟩
      · rw [itemsOf, itemsOf, hfirst, hsecond, hlast]
        rfl
      · rw [← List.append_assoc, ← List.append_assoc]
        exact List.perm_append_comm.append_right last
  | trans _ _ ihfirst ihsecond =>
      rcases ihsecond hitems with ⟨middle, hmiddle, hperm⟩
      rcases ihfirst hmiddle with ⟨found, hfound, hfirst⟩
      exact ⟨found, hfound, hfirst.trans hperm⟩

theorem readFrom_reordered (h : Form.Reordered form other) (hnames : form.NamesFilters)
    {group : FilterGroup} (hread : ReadFrom form catalog group) :
    exists items, ReadFrom other catalog ⟨group.key, items⟩ ∧ items.Perm group.items := by
  rcases hread with ⟨number, hlisted, hitems⟩
  rcases itemsOf_perm (Form.values_perm h.fields group.key) hitems with ⟨items, hfound, hperm⟩
  refine ⟨items, ⟨number, listed?_reordered h hnames hlisted, ?_⟩, hperm⟩
  rw [← hfound]
  exact itemsOf_congr fun name _ => item?_reordered h name

private theorem ofKeys_isOk {keys : List String}
    (h : forall key, key ∈ keys -> forall number, listed? form key = some number ->
      exists items, itemsOf form catalog key number (form.values key) = .ok items) :
    exists groups, ofKeys form catalog keys = .ok groups := by
  induction keys with
  | nil =>
      exact ⟨[], rfl⟩
  | cons key keys ih =>
      rw [List.forall_mem_cons] at h
      rcases ih h.right with ⟨groups, hgroups⟩
      unfold ofKeys
      cases hlisted : listed? form key with
      | none =>
          exact ⟨groups, hgroups⟩
      | some number =>
          rcases h.left number hlisted with ⟨items, hitems⟩
          refine ⟨⟨key, items⟩ :: groups, ?_⟩
          dsimp only
          rw [hitems, hgroups]
          rfl

/-- Each of the groups is among the others, with its filters in some order. -/
def AreAmong (groups others : List FilterGroup) : Prop :=
  forall group, group ∈ groups ->
    exists items, FilterGroup.mk group.key items ∈ others ∧ items.Perm group.items

theorem ofForm_reordered (h : Form.Reordered form other) (hnames : form.NamesFilters)
    {groups : List FilterGroup} (hgroups : ofForm form catalog = .ok groups) :
    exists others, ofForm other catalog = .ok others ∧ AreAmong groups others ∧
      AreAmong others groups := by
  have hok : exists others, ofForm other catalog = .ok others := by
    apply ofKeys_isOk
    intro key hkey number hlisted
    have hhere := listed?_reordered h.symm (h.namesFilters hnames) hlisted
    have hmem := Form.mem_keys_of_perm h.fields hkey
    rcases itemsOf_of_mem hgroups hmem hhere with ⟨items, hitems, _⟩
    have hread : ReadFrom form catalog ⟨key, items⟩ := ⟨number, hhere, hitems⟩
    rcases readFrom_reordered h hnames hread with ⟨found, ⟨digits, hdigits, hfound⟩, _⟩
    rw [hlisted] at hdigits
    cases hdigits
    exact ⟨found, hfound⟩
  rcases hok with ⟨others, hothers⟩
  refine ⟨others, hothers, ?_, ?_⟩
  · intro group hgroup
    rcases readFrom_reordered h hnames ((mem_ofForm hgroups group).mp hgroup) with
      ⟨items, hread, hperm⟩
    exact ⟨items, (mem_ofForm hothers _).mpr hread, hperm⟩
  · intro group hgroup
    rcases readFrom_reordered h.symm (h.namesFilters hnames)
        ((mem_ofForm hothers group).mp hgroup) with
      ⟨items, hread, hperm⟩
    exact ⟨items, (mem_ofForm hgroups _).mpr hread, hperm⟩

end FilterGroup

/-!
# Plans that are alike
-/

namespace BuiltItem

variable {sources : Sources} {catalog : Catalog}

theorem ofItems_isOk_iff {items : List FilterItem} :
    (exists built, ofItems sources catalog items = .ok built) <->
      forall item, item ∈ items -> exists made, BuiltFrom sources catalog item made := by
  induction items with
  | nil =>
      exact iff_of_true ⟨[], rfl⟩ (by simp)
  | cons item items ih =>
      rw [List.forall_mem_cons, ← ih]
      constructor
      · intro h
        rcases h with ⟨built, hbuilt⟩
        have hmade := ofItems_eq_ok hbuilt
        cases hmade with
        | cons hfirst _ =>
            rcases hfirst with ⟨spec, hspec, hfirst⟩
            unfold ofItems at hbuilt
            rw [hspec] at hbuilt
            rcases bind_eq_ok.mp hbuilt with ⟨_, _, hbuilt⟩
            rcases bind_eq_ok.mp hbuilt with ⟨rest, hrest, _⟩
            exact ⟨⟨_, spec, hspec, hfirst⟩, rest, hrest⟩
      · intro h
        rcases h with ⟨⟨made, spec, hspec, hmade⟩, rest, hrest⟩
        refine ⟨made :: rest, ?_⟩
        rw [ofItems, hspec]
        dsimp only
        rw [hmade, hrest]
        rfl

theorem ofGroups_isOk_iff {groups : List FilterGroup} :
    (exists built, ofGroups sources catalog groups = .ok built) <->
      forall group, group ∈ groups -> forall item, item ∈ group.items ->
        exists made, BuiltFrom sources catalog item made := by
  induction groups with
  | nil =>
      exact iff_of_true ⟨[], rfl⟩ (by simp)
  | cons group groups ih =>
      rw [List.forall_mem_cons, ← ih, ← ofItems_isOk_iff]
      constructor
      · intro h
        rcases h with ⟨built, hbuilt⟩
        unfold ofGroups at hbuilt
        rcases bind_eq_ok.mp hbuilt with ⟨first, hfirst, hbuilt⟩
        rcases bind_eq_ok.mp hbuilt with ⟨rest, hrest, _⟩
        exact ⟨⟨first, hfirst⟩, rest, hrest⟩
      · intro h
        rcases h with ⟨⟨first, hfirst⟩, rest, hrest⟩
        refine ⟨first :: rest, ?_⟩
        rw [ofGroups, hfirst, hrest]
        rfl

theorem ofGroups_areAmong {groups others : List FilterGroup} {built : List (List BuiltItem)}
    (h : FilterGroup.AreAmong others groups)
    (hbuilt : ofGroups sources catalog groups = .ok built) :
    exists made, ofGroups sources catalog others = .ok made := by
  have hall := ofGroups_isOk_iff.mp ⟨built, hbuilt⟩
  rw [ofGroups_isOk_iff]
  intro group hgroup item hitem
  rcases h group hgroup with ⟨items, hmem, hperm⟩
  exact hall _ hmem item (hperm.mem_iff.mpr hitem)

end BuiltItem

namespace Predicate

/-- The predicates have the same answer for every user whose totals are in range. -/
def Alike (p q : Predicate) : Prop :=
  forall user : User, user.HasTotals -> p.holds user = q.holds user

theorem Alike.of_tells {p q : Predicate} {statement : User -> Prop}
    (hp : forall user, Tells (p.holds user) (statement user))
    (hq : forall user, Tells (q.holds user) (statement user)) :
    Alike p q := by
  intro user htotals
  rcases holds_isOk htotals p with ⟨answer, hanswer⟩
  rcases holds_isOk htotals q with ⟨other, hother⟩
  have heq : answer = other := by
    rw [Bool.eq_iff_iff, hp user answer hanswer, hq user other hother]
  rw [hanswer, hother, heq]

theorem Alike.and {p q r s : Predicate} (hleft : Alike p q) (hright : Alike r s) :
    Alike (p.and r) (q.and s) := by
  intro user htotals
  rw [holds_and, holds_and, hleft user htotals, hright user htotals]

end Predicate

namespace Plan

/-- The plans show the same columns of users for whom they have the same answer. -/
structure Alike (plan other : Plan) : Prop where
  selection : plan.selection.Alike other.selection
  columns : plan.columns = other.columns
  isDistinct : plan.isDistinct = other.isDistinct

variable {plan other : Plan}

theorem Alike.filter (h : plan.Alike other) {p q : Predicate} (hpredicate : p.Alike q) :
    (plan.filter p).Alike (other.filter q) :=
  ⟨h.selection.and hpredicate, h.columns, h.isDistinct⟩

theorem Alike.none (h : plan.Alike other) : plan.none.Alike other.none :=
  ⟨fun _ _ => rfl, h.columns, h.isDistinct⟩

theorem Alike.distinct (h : plan.Alike other) : plan.distinct.Alike other.distinct :=
  ⟨h.selection, h.columns, rfl⟩

theorem Alike.withColumns (h : plan.Alike other) (columns : List OutputColumn) :
    (plan.withColumns columns).Alike (other.withColumns columns) := by
  induction columns generalizing plan other with
  | nil =>
      exact h
  | cons column columns ih =>
      apply ih
      unfold withColumn
      rw [h.columns]
      split
      · exact h
      · exact ⟨h.selection, rfl, h.isDistinct⟩

theorem Alike.narrowed (h : plan.Alike other) (narrowings : List Narrowing) :
    (Compiler.narrowed plan narrowings).Alike (Compiler.narrowed other narrowings) := by
  induction narrowings generalizing plan other with
  | nil =>
      exact h
  | cons narrowing narrowings ih =>
      exact ih (h.filter fun _ _ => rfl)

theorem Alike.guarded (h : plan.Alike other)
    (hunfiltered : plan.selection.isUnfiltered = other.selection.isUnfiltered) :
    (Compiler.guarded plan).Alike (Compiler.guarded other) := by
  have hbaseline : plan.isBaseline = other.isBaseline := by
    rw [isBaseline, isBaseline, hunfiltered, h.columns, h.isDistinct]
  unfold Compiler.guarded
  rw [hbaseline]
  split
  · exact h.none
  · exact h

end Plan

namespace Compiler

variable {compiler : Compiler} {form other : Form}

/-!
## Groups that are among each other
-/

theorem forall_items_of_areAmong {groups others : List FilterGroup}
    (h : FilterGroup.AreAmong others groups)
    (hempty : forall group, group ∈ groups -> group.items = []) :
    forall group, group ∈ others -> group.items = [] := by
  intro group hgroup
  rcases h group hgroup with ⟨items, hmem, hperm⟩
  have hnil : items = [] := hempty _ hmem
  rw [hnil] at hperm
  exact hperm.nil_eq.symm

private theorem exists_met_of_areAmong {groups others : List FilterGroup} {user : User}
    (h : FilterGroup.AreAmong groups others)
    (hmet : exists group, group ∈ groups ∧ group.items ≠ [] ∧ compiler.MeetsGroup user group) :
    exists group, group ∈ others ∧ group.items ≠ [] ∧ compiler.MeetsGroup user group := by
  rcases hmet with ⟨group, hgroup, hne, hmeets⟩
  rcases h group hgroup with ⟨items, hmem, hperm⟩
  refine ⟨_, hmem, ?_, ?_⟩
  · intro hnil
    have hnil : items = [] := hnil
    rw [hnil] at hperm
    exact hne hperm.nil_eq.symm
  · intro item hitem
    exact hmeets item (hperm.mem_iff.mp hitem)

theorem selectionOf_alike {groups others : List FilterGroup}
    {built made : List (List BuiltItem)} (hbuilt : compiler.BuiltGroups groups built)
    (hmade : compiler.BuiltGroups others made) (hthere : FilterGroup.AreAmong groups others)
    (hhere : FilterGroup.AreAmong others groups) :
    (selectionOf built).Alike (selectionOf made) := by
  refine Predicate.Alike.of_tells (fun user => tells_selectionOf hbuilt) ?_
  intro user
  refine Predicate.tells_congr (tells_selectionOf hmade) ?_
  exact or_congr
    ⟨forall_items_of_areAmong hthere, forall_items_of_areAmong hhere⟩
    ⟨exists_met_of_areAmong hhere, exists_met_of_areAmong hthere⟩

theorem isUnfiltered_selectionOf_eq {groups others : List FilterGroup}
    {built made : List (List BuiltItem)} (hbuilt : compiler.BuiltGroups groups built)
    (hmade : compiler.BuiltGroups others made) (hthere : FilterGroup.AreAmong groups others)
    (hhere : FilterGroup.AreAmong others groups) :
    (selectionOf built).isUnfiltered = (selectionOf made).isUnfiltered := by
  rw [Bool.eq_iff_iff, isUnfiltered_selectionOf hbuilt, isUnfiltered_selectionOf hmade]
  exact ⟨forall_items_of_areAmong hhere, forall_items_of_areAmong hthere⟩

/-!
## Requests in another order
-/

def KeepsAlike (modifier : Option (Plan -> Plan)) : Prop :=
  forall modify, modifier = some modify ->
    forall plan other : Plan, plan.Alike other -> (modify plan).Alike (modify other)

theorem others_reordered (h : Form.Reordered form other) (compiler : Compiler) :
    textSearch? other = textSearch? form ∧ idSearch? other = idSearch? form ∧
      compiler.extensionSearch other = compiler.extensionSearch form ∧
      asksForAll other = asksForAll form := by
  apply others_congr
  intro field hfield
  have hnone : forall field, field ∈ namedFields -> number? field = none := by
    decide
  exact h.others field (hnone field hfield)

structure PartsAlike (parts others : Parts) : Prop where
  there : FilterGroup.AreAmong parts.groups others.groups
  here : FilterGroup.AreAmong others.groups parts.groups
  ids : others.ids = parts.ids
  extensions : others.extensions = parts.extensions

theorem parts_reordered (h : Form.Reordered form other) (hnames : form.NamesFilters)
    {parts : Parts} (hparts : compiler.parts form = .ok parts) :
    exists others, compiler.parts other = .ok others ∧ PartsAlike parts others := by
  rcases parts_eq_ok hparts with ⟨hgroups, hbuilt, hids, hextensions⟩
  rcases others_reordered h compiler with ⟨_, hsameIds, hsameExtensions, _⟩
  rcases FilterGroup.ofForm_reordered h hnames hgroups with ⟨groups, hothers, hthere, hhere⟩
  rcases BuiltItem.ofGroups_areAmong hhere hbuilt with ⟨built, hmade⟩
  refine ⟨⟨groups, built, parts.ids, parts.extensions⟩, ?_, hthere, hhere, rfl, rfl⟩
  rw [Compiler.parts, hothers, hsameIds, hids, hsameExtensions, hextensions]
  simp only [Except.mapError, bind, Except.bind, hmade]
  rfl

private theorem wanted_alike (h : Form.Reordered form other) {parts others : Parts}
    (hparts : compiler.parts form = .ok parts) (hothers : compiler.parts other = .ok others)
    (halike : PartsAlike parts others) :
    (guarded (parts.wanted compiler form)).Alike (guarded (others.wanted compiler other)) := by
  have hbuilt : compiler.BuiltGroups parts.groups parts.built :=
    BuiltItem.ofGroups_eq_ok (parts_eq_ok hparts).right.left
  have hmade : compiler.BuiltGroups others.groups others.built :=
    BuiltItem.ofGroups_eq_ok (parts_eq_ok hothers).right.left
  have hoverrides : others.overrides other = parts.overrides form := by
    rw [Parts.overrides, Parts.overrides, (others_reordered h compiler).left, halike.ids]
  apply Plan.Alike.guarded
  · have hbaseline : Plan.baseline.Alike Plan.baseline := ⟨fun _ _ => rfl, rfl, rfl⟩
    have hsearched :=
      (hbaseline.filter (selectionOf_alike hbuilt hmade halike.there halike.here)).narrowed
        (parts.overrides form)
    unfold Parts.wanted
    rw [hoverrides, halike.extensions]
    apply Plan.Alike.narrowed
    split
    · exact hsearched.withColumns reportColumns
    · exact hsearched
  · rw [wanted_selection, wanted_selection, hoverrides, halike.extensions]
    simp only [Predicate.isUnfiltered_foldl_and]
    rw [isUnfiltered_selectionOf_eq hbuilt hmade halike.there halike.here]

private theorem assembled_alike (hmodifier : KeepsAlike compiler.modifier)
    (h : Form.Reordered form other) {parts others : Parts}
    (hparts : compiler.parts form = .ok parts) (hothers : compiler.parts other = .ok others)
    (halike : PartsAlike parts others) :
    (parts.assembled compiler form).plan.Alike (others.assembled compiler other).plan := by
  have hwanted := wanted_alike h hparts hothers halike
  have hsubscribed : Parts.subscribed compiler other = Parts.subscribed compiler form := by
    rw [Parts.subscribed, Parts.subscribed, (others_reordered h compiler).right.right.right]
  have hmodified : (parts.modified compiler form).Alike (others.modified compiler other) := by
    unfold Parts.modified
    cases hmodify : compiler.modifier with
    | none =>
        exact hwanted
    | some modify =>
        exact hmodifier modify hmodify _ _ hwanted
  unfold Parts.assembled
  dsimp only
  rw [hsubscribed]
  exact (hmodified.narrowed _).distinct

private theorem assemble_reordered (h : Form.Reordered form other) (hnames : form.NamesFilters)
    {assembled : Assembled} (hassemble : compiler.assemble form = .ok assembled) :
    exists found, compiler.assemble other = .ok found ∧
      (KeepsAlike compiler.modifier -> assembled.plan.Alike found.plan) := by
  rcases parts_of_assemble hassemble with ⟨parts, hparts, rfl⟩
  rcases parts_reordered h hnames hparts with ⟨others, hothers, halike⟩
  refine ⟨others.assembled compiler other, ?_, ?_⟩
  · rw [assemble_eq_map_parts, hothers]
    rfl
  · intro hmodifier
    exact assembled_alike hmodifier h hparts hothers halike

/--
The order of groups, and of the filters in a group, does not matter.  A request with these in
another order is assembled exactly if the request is, and the plans of both have the same
answer for every user whose totals are in range.
-/
theorem order_of_filters_is_free (compiler : Compiler) (h : Form.Reordered form other)
    (hnames : form.NamesFilters) :
    ((exists found, compiler.assemble other = .ok found) <->
        exists assembled, compiler.assemble form = .ok assembled) ∧
      (KeepsAlike compiler.modifier ->
        forall assembled found, compiler.assemble form = .ok assembled ->
          compiler.assemble other = .ok found -> assembled.plan.Alike found.plan) := by
  refine ⟨⟨?_, ?_⟩, ?_⟩
  · intro h
    rcases h with ⟨found, hfound⟩
    rcases assemble_reordered h.symm (h.namesFilters hnames) hfound with ⟨assembled, hok, _⟩
    exact ⟨assembled, hok⟩
  · intro h
    rcases h with ⟨assembled, hassembled⟩
    rcases assemble_reordered h hnames hassembled with ⟨found, hok, _⟩
    exact ⟨found, hok⟩
  · intro hmodifier assembled found hassembled hfound
    rcases assemble_reordered h hnames hassembled with ⟨other, hother, halike⟩
    rw [hfound] at hother
    cases hother
    exact halike hmodifier

def donorsOrNeighbours : Form :=
  ⟨[("include:1", "country"), ("include:1", "donated_more"), ("include:2", "zipcode"),
    ("1_country", "US"), ("1_country", "CA"), ("1_donated_more", "100"), ("2_zipcode", "10001"),
    ("2_zipcode_istoggle", "0")]⟩

def neighboursOrDonors : Form :=
  ⟨[("include:2", "zipcode"), ("1_country", "US"), ("1_country", "CA"),
    ("include:1", "donated_more"), ("1_donated_more", "100"), ("2_zipcode", "10001"),
    ("include:1", "country"), ("2_zipcode_istoggle", "0")]⟩

theorem order_of_filters_is_free_neighbours :
    Form.Reordered donorsOrNeighbours neighboursOrDonors ∧ donorsOrNeighbours.NamesFilters ∧
      KeepsAlike (standalone {}).modifier ∧
      exists assembled found, (standalone {}).assemble donorsOrNeighbours = .ok assembled ∧
        (standalone {}).assemble neighboursOrDonors = .ok found ∧
        assembled.plan.Alike found.plan ∧
        found.plan.matchingIds [User.unknown 1 "subscribed"] = .ok [1] := by
  have hreordered : Form.Reordered donorsOrNeighbours neighboursOrDonors := by
    constructor
    · decide
    · intro key hkey
      apply Form.values_eq_of_filter (fun key => (number? key).isNone)
      · decide
      · rw [hkey]
        rfl
  have hnames : donorsOrNeighbours.NamesFilters := by decide
  have hmodifier : KeepsAlike (standalone {}).modifier := by
    intro modify h
    cases h
  have hfree := order_of_filters_is_free (standalone {}) hreordered hnames
  exact ⟨hreordered, hnames, hmodifier, _, _, rfl, rfl, hfree.right hmodifier _ _ rfl rfl, rfl⟩

end Compiler
end Audience
