import Audience.Proofs.Denotation
import Audience.Proofs.TurnedFilters

/-!
# Requests turned round

## Forms that differ in one field

The toggle of a filter is a field of its own.  Two forms that differ in the values of that
field alone list the same groups, and what they ask for differs in one toggle.
-/

namespace Audience

namespace Form

/-- The forms have the same keys in the same order, and the same values except for one
key. -/
def SameBut (key : String) (form other : Form) : Prop :=
  List.Forall₂ (fun field found => found.1 = field.1 ∧ (field.1 ≠ key -> found.2 = field.2))
    form.pairs other.pairs

theorem keys_of_sameBut {key : String} {form other : Form} (h : SameBut key form other) :
    other.keys = form.keys := by
  have hkeys : other.pairs.map Prod.fst = form.pairs.map Prod.fst := by
    rcases form with ⟨fields⟩
    rcases other with ⟨others⟩
    unfold SameBut at h
    dsimp only at h
    induction h with
    | nil =>
        rfl
    | cons hfield hrest ih =>
        rw [List.map_cons, List.map_cons, hfield.left, ih]
  rw [keys, keys, hkeys]

theorem has_of_sameBut {key : String} {form other : Form} (h : SameBut key form other)
    (wanted : String) : other.has wanted = form.has wanted := by
  rcases form with ⟨fields⟩
  rcases other with ⟨others⟩
  unfold SameBut at h
  unfold has
  dsimp only at h
  induction h with
  | nil =>
      rfl
  | cons hfield hrest ih =>
      rw [List.any_cons, List.any_cons, hfield.left, ih]

theorem values_of_sameBut {key wanted : String} {form other : Form}
    (h : SameBut key form other) (hne : wanted ≠ key) :
    other.values wanted = form.values wanted := by
  rcases form with ⟨fields⟩
  rcases other with ⟨others⟩
  unfold SameBut at h
  unfold values
  dsimp only at h
  induction h with
  | nil =>
      rfl
  | cons hfield hrest ih =>
      rename_i field found fields others
      rw [List.filter_cons, List.filter_cons, hfield.left]
      by_cases hkey : field.1 = wanted
      · have hvalue := hfield.right (by rw [hkey]; exact hne)
        simp only [hkey, beq_self_eq_true, if_true, List.map_cons, hvalue, ih]
      · have hfalse : (field.1 == wanted) = false := beq_eq_false_iff_ne.mpr hkey
        simp only [hfalse, Bool.false_eq_true, if_false, ih]

theorem filledValues_of_sameBut {key wanted : String} {form other : Form}
    (h : SameBut key form other) (hne : wanted ≠ key) :
    other.filledValues wanted = form.filledValues wanted := by
  rw [filledValues, filledValues, values_of_sameBut h hne]

theorem filledValues_ne_nil {form : Form} {key value : String}
    (hlast : form.last? key = some value) (hvalue : Text.blank value = false) :
    form.filledValues key ≠ [] := by
  intro hnil
  have hmem : value ∈ form.values key := List.mem_of_getLast? hlast
  have hkept : value ∈ form.filledValues key :=
    List.mem_filter.mpr ⟨hmem, by rw [hvalue]; rfl⟩
  rw [hnil] at hkept
  cases hkept

end Form

namespace FilterGroup

/-- What the keys of a filter begin with, up to the name of the filter. -/
def startOf (form : Form) (key number name : String) : String :=
  prefixOf form key number name ++ "_" ++ name

def toggleField (form : Form) (key number name : String) : String :=
  startOf form key number name ++ toggleSuffix

/-- The forms differ in one toggle alone, which includes in the first and excludes in the
second. -/
structure TurnedAt (field : String) (form other : Form) : Prop where
  same : Form.SameBut field form other
  included : form.last? field = some "1"
  excluded : other.last? field = some "0"

/-!
## Other fields

No other field that is read has the key of a toggle.
-/

theorem number?_toggleField (start : String) : number? (start ++ toggleSuffix) = none := by
  have hlast : (start ++ toggleSuffix).toList.getLast? = some 'e' := by
    rw [String.toList_append, List.getLast?_append]
    rfl
  unfold number? Text.dropStart?
  split
  · rename_i digits hdigits
    split at hdigits
    · cases hdigits
      split
      · rename_i hprefix hnumber
        rw [Bool.and_eq_true, Bool.not_eq_true', List.isEmpty_eq_false_iff] at hnumber
        -- The last of the digits is the last character of the key.
        have hmem : 'e' ∈ (start ++ toggleSuffix).toList.drop marker.toList.length := by
          apply List.mem_of_getLast?
          rw [List.getLast?_drop, if_neg, hlast]
          intro hshort
          exact hnumber.left (List.drop_eq_nil_of_le hshort)
        have hdigit := List.all_eq_true.mp hnumber.right 'e' hmem
        exact absurd hdigit (by decide)
      · rfl
    · cases hdigits
  · rfl

theorem startOf_ne_toggleField (start : String) : start ≠ start ++ toggleSuffix := by
  intro heq
  have hlength := congrArg (fun s => s.toList.length) heq
  simp [toggleSuffix] at hlength

private theorem companion_ne_toggleField (start companion : String) :
    start ++ companionMark ++ companion ≠ start ++ toggleSuffix := by
  intro heq
  rw [← String.toList_inj] at heq
  simp [toggleSuffix, companionMark] at heq

/-!
## Groups of both forms
-/

variable {form other : Form} {catalog : Catalog} {key number : String} {item : FilterItem}

private theorem startOf_turned {field : String} (h : TurnedAt field form other)
    (key number name : String) :
    startOf other key number name = startOf form key number name := by
  rw [startOf, startOf, prefixOf, prefixOf, Form.has_of_sameBut h.same]

private theorem companionsOf_turned {start : String}
    (h : TurnedAt (start ++ toggleSuffix) form other)
    (spec : FilterSpec) :
    companionsOf other start spec = companionsOf form start spec := by
  unfold companionsOf Form.filled? Form.last?
  congr 1
  funext companion
  rw [Form.values_of_sameBut h.same (companion_ne_toggleField start companion)]

/-- If a name stands for no filter but the one at the toggle, then the filter includes, and
in the other form it excludes and is the same otherwise. -/
private theorem item?_turned (h : TurnedAt (toggleField form key number item.name) form other)
    {group digits name : String} {found : Option FilterItem}
    (hfound : item? form catalog group digits name = .ok found)
    (honly : forall made, made ∈ found -> made = item ∧ group = key ∧ digits = number) :
    item? other catalog group digits name = .ok (found.map (·.turned false)) ∧
      forall made, made ∈ found -> made.included = true := by
  have hstart := startOf_turned h group digits name
  unfold item? at hfound ⊢
  unfold startOf at hstart
  by_cases hcompanion : catalog.isCompanion name = true
  · rw [if_pos hcompanion] at hfound ⊢
    cases hfound
    exact ⟨rfl, by simp⟩
  rw [if_neg hcompanion] at hfound ⊢
  dsimp only at hfound ⊢
  rw [hstart]
  generalize hbegin : prefixOf form group digits name ++ "_" ++ name = start at hfound ⊢
  by_cases hempty : (form.filledValues start).isEmpty = true
  · -- The values of the toggle are not all blank, so they are not asked for here.
    have hne : start ≠ toggleField form key number item.name := by
      intro heq
      rw [heq, List.isEmpty_iff] at hempty
      exact Form.filledValues_ne_nil h.included (by decide) hempty
    rw [if_pos hempty] at hfound
    cases hfound
    rw [Form.filledValues_of_sameBut h.same hne, if_pos hempty]
    exact ⟨rfl, by simp⟩
  · rw [if_neg hempty] at hfound
    cases hspec : catalog.get? name with
    | none =>
        rw [hspec] at hfound
        cases hfound
    | some spec =>
        rw [hspec] at hfound
        cases hfound
        rcases honly _ rfl with ⟨hmade, rfl, rfl⟩
        have hfield : toggleField form group digits item.name = start ++ toggleSuffix := by
          rw [← hmade, toggleField, startOf, hbegin]
        rw [hfield] at h
        have hvalues := Form.filledValues_of_sameBut h.same (startOf_ne_toggleField start)
        rw [hvalues, if_neg hempty]
        dsimp only
        rw [companionsOf_turned h spec, h.excluded, h.included]
        refine ⟨rfl, ?_⟩
        intro made hmem
        cases hmem
        rfl

theorem itemsOf_turned (h : TurnedAt (toggleField form key number item.name) form other)
    {group digits : String} {names : List String} {items : List FilterItem}
    (hitems : itemsOf form catalog group digits names = .ok items)
    (honly : forall made, made ∈ items -> made = item ∧ group = key ∧ digits = number) :
    itemsOf other catalog group digits names = .ok (items.map (·.turned false)) ∧
      forall made, made ∈ items -> made.included = true := by
  induction names generalizing items with
  | nil =>
      cases hitems
      exact ⟨rfl, by simp⟩
  | cons name names ih =>
      unfold itemsOf at hitems
      rcases bind_eq_ok.mp hitems with ⟨first, hfirst, hitems⟩
      rcases bind_eq_ok.mp hitems with ⟨rest, hrest, hitems⟩
      cases hitems
      rw [List.forall_mem_append] at honly ⊢
      have hhere := item?_turned h hfirst (by simpa using honly.left)
      have hthere := ih hrest honly.right
      unfold itemsOf
      rw [hhere.left, hthere.left]
      refine ⟨?_, by simpa using hhere.right, hthere.right⟩
      cases first <;> rfl

def turned (group : FilterGroup) (included : Bool) : FilterGroup :=
  { group with items := group.items.map (·.turned included) }

theorem number?_of_listed? {group digits : String} (h : listed? form group = some digits) :
    number? group = some digits := by
  unfold listed? at h
  split at h
  · rename_i hnumber _
    split at h
    · cases h
    · rw [hnumber, h]
  · cases h

private theorem listed?_turned {start : String} (h : TurnedAt (start ++ toggleSuffix) form other)
    (group : String) : listed? other group = listed? form group := by
  unfold listed? Form.last?
  cases hnumber : number? group with
  | none =>
      rfl
  | some digits =>
      have hne : group ≠ start ++ toggleSuffix := by
        intro heq
        rw [heq, number?_toggleField] at hnumber
        cases hnumber
      rw [Form.values_of_sameBut h.same hne]

theorem ofKeys_turned (h : TurnedAt (toggleField form key number item.name) form other)
    (hnumber : number? key = some number) {keys : List String} {groups : List FilterGroup}
    (hgroups : ofKeys form catalog keys = .ok groups)
    (honly : forall group, group ∈ groups -> forall made, made ∈ group.items ->
      made = item ∧ group.key = key) :
    ofKeys other catalog keys = .ok (groups.map (·.turned false)) ∧
      forall group, group ∈ groups -> forall made, made ∈ group.items ->
        made.included = true := by
  induction keys generalizing groups with
  | nil =>
      cases hgroups
      exact ⟨rfl, by simp⟩
  | cons group keys ih =>
      unfold ofKeys at hgroups ⊢
      rw [listed?_turned h group]
      cases hlisted : listed? form group with
      | none =>
          rw [hlisted] at hgroups
          exact ih hgroups honly
      | some digits =>
          rw [hlisted] at hgroups
          rcases bind_eq_ok.mp hgroups with ⟨items, hitems, hgroups⟩
          rcases bind_eq_ok.mp hgroups with ⟨rest, hrest, hgroups⟩
          cases hgroups
          rw [List.forall_mem_cons] at honly ⊢
          have hdigits := number?_of_listed? hlisted
          have hne : group ≠ toggleField form key number item.name := by
            intro heq
            rw [heq, toggleField, number?_toggleField] at hdigits
            cases hdigits
          have hhere := itemsOf_turned h hitems (by
            intro made hmade
            rcases honly.left made hmade with ⟨heq, hkey⟩
            dsimp only at hkey
            rw [hkey, hnumber] at hdigits
            exact ⟨heq, hkey, (Option.some.inj hdigits).symm⟩)
          have hthere := ih hrest honly.right
          rw [Form.values_of_sameBut h.same hne]
          dsimp only
          rw [hhere.left, hthere.left]
          exact ⟨rfl, hhere.right, hthere.right⟩

end FilterGroup

/-!
# A single filter

## What one filter makes of a request
-/

/-- The narrowing keeps every user whose totals are in range. -/
def Narrowing.IsIdle (narrowing : Narrowing) : Prop :=
  forall user : User, user.HasTotals -> narrowing.predicate.holds user = .ok true

namespace Compiler

/-- One filter alone narrows the result: there is one group that is not empty, the filter is
all that it holds, users without a subscription are wanted too, and whatever else the
request asks for keeps every user. -/
structure SoleFilter (compiler : Compiler) (form : Form) (key : String) (item : FilterItem) :
    Prop where
  groups :
    exists groups, FilterGroup.ofForm form compiler.catalog = .ok groups ∧
      (groups.filter fun group => !group.items.isEmpty) = [⟨key, [item]⟩]
  others :
    exists ids extensions, idSearch? form = .ok ids ∧
      compiler.extensionSearch form = .ok extensions ∧
      forall narrowing, narrowing ∈ (textSearch? form).toList ++ ids.toList ++ extensions ->
        narrowing.IsIdle
  everyone : asksForAll form = true
  /-- The modifier, if there is one, leaves the selection of a plan as it is. -/
  modifier :
    forall modify, compiler.modifier = some modify ->
      forall plan : Plan, (modify plan).selection = plan.selection

def namedFields : List String :=
  ["user_name", "user_email", "user_akid", "column", "subscription_all_users"]

theorem others_congr {form other : Form}
    (h : forall field, field ∈ namedFields -> other.values field = form.values field)
    (compiler : Compiler) :
    textSearch? other = textSearch? form ∧ idSearch? other = idSearch? form ∧
      compiler.extensionSearch other = compiler.extensionSearch form ∧
      asksForAll other = asksForAll form := by
  simp only [namedFields, List.forall_mem_cons] at h
  rcases h with ⟨hname, hemail, hids, hcolumns, hall, _⟩
  refine ⟨?_, ?_, ?_, ?_⟩
  · simp only [textSearch?, nameSearch?, emailSearch?, Form.filled?, Form.last?, hname, hemail]
  · simp only [idSearch?, Form.filled?, Form.last?, hids]
  · simp only [extensionSearch, Form.filledValues, hcolumns]
  · simp only [asksForAll, Form.last?, hall]

theorem others_of_turned {field : String} {form other : Form}
    (h : FilterGroup.TurnedAt field form other)
    (hfield : FilterGroup.toggleSuffix.toList <:+ field.toList) (compiler : Compiler) :
    textSearch? other = textSearch? form ∧ idSearch? other = idSearch? form ∧
      compiler.extensionSearch other = compiler.extensionSearch form ∧
      asksForAll other = asksForAll form := by
  apply others_congr
  intro named hnamed
  apply Form.values_of_sameBut h.same
  intro heq
  have hnone : forall named, named ∈ namedFields ->
      ¬ FilterGroup.toggleSuffix.toList <:+ named.toList := by
    decide
  rw [← heq] at hfield
  exact hnone named hnamed hfield

private theorem mem_of_sole {groups : List FilterGroup} {key : String} {item : FilterItem}
    (hsole : (groups.filter fun group => !group.items.isEmpty) = [⟨key, [item]⟩]) :
    forall group, group ∈ groups -> forall made, made ∈ group.items ->
      made = item ∧ group.key = key := by
  intro group hgroup made hmade
  have hkept : group ∈ groups.filter fun group => !group.items.isEmpty := by
    rw [List.mem_filter]
    refine ⟨hgroup, ?_⟩
    cases hitems : group.items with
    | nil =>
        rw [hitems] at hmade
        cases hmade
    | cons _ _ =>
        rfl
  rw [hsole, List.mem_singleton] at hkept
  rw [hkept] at hmade ⊢
  exact ⟨List.mem_singleton.mp hmade, rfl⟩

private theorem filter_turned (groups : List FilterGroup) (included : Bool) :
    ((groups.map (·.turned included)).filter fun group => !group.items.isEmpty) =
      (groups.filter fun group => !group.items.isEmpty).map (·.turned included) := by
  rw [List.filter_map]
  congr 2
  funext group
  simp [FilterGroup.turned]

theorem SoleFilter.turned {compiler : Compiler} {form other : Form} {key number : String}
    {item : FilterItem} (hsole : compiler.SoleFilter form key item)
    (hnumber : FilterGroup.number? key = some number)
    (h : FilterGroup.TurnedAt (FilterGroup.toggleField form key number item.name)
      form other) :
    item.turned true = item ∧ compiler.SoleFilter other key (item.turned false) := by
  rcases hsole.groups with ⟨groups, hgroups, hfilter⟩
  have hturned := FilterGroup.ofKeys_turned h hnumber hgroups (mem_of_sole hfilter)
  have hfield : FilterGroup.toggleSuffix.toList <:+
      (FilterGroup.toggleField form key number item.name).toList := by
    rw [FilterGroup.toggleField, String.toList_append]
    exact List.suffix_append _ _
  rcases others_of_turned h hfield compiler with ⟨htext, hids, hextensions, hall⟩
  constructor
  · have hmem : FilterGroup.mk key [item] ∈
        groups.filter fun group => !group.items.isEmpty := by
      rw [hfilter]
      exact List.mem_singleton.mpr rfl
    have hincluded : item.included = true :=
      hturned.right _ (List.mem_of_mem_filter hmem) item (List.mem_singleton.mpr rfl)
    rw [FilterItem.turned, ← hincluded]
  · constructor
    · refine ⟨groups.map (·.turned false), ?_, ?_⟩
      · rw [FilterGroup.ofForm, Form.keys_of_sameBut h.same]
        exact hturned.left
      · rw [filter_turned, hfilter]
        rfl
    · rw [htext, hids, hextensions]
      exact hsole.others
    · rw [hall]
      exact hsole.everyone
    · exact hsole.modifier

/-!
## Plans of one filter
-/

theorem ofGroups_of_empty {sources : Sources} {catalog : Catalog} {groups : List FilterGroup}
    (h : (groups.filter fun group => !group.items.isEmpty) = []) :
    BuiltItem.ofGroups sources catalog groups = .ok (groups.map fun _ => []) := by
  induction groups with
  | nil =>
      rfl
  | cons group groups ih =>
      rcases group with ⟨key, items⟩
      cases items with
      | nil =>
          unfold BuiltItem.ofGroups
          rw [ih (by simpa using h)]
          rfl
      | cons item items =>
          cases h

def BuiltAlone (alone : List BuiltItem) (built : List (List BuiltItem)) : Prop :=
  exists made : BuiltItem, alone = [made] ∧ made.predicate.isUnfiltered = false ∧
    (built.filter fun items => !BuiltItem.isIdle items) = [[made]]

theorem builtAlone_cons {sources : Sources} {catalog : Catalog} {item : FilterItem}
    {alone : List BuiltItem} (h : BuiltItem.ofItems sources catalog [item] = .ok alone)
    (groups : List FilterGroup) : BuiltAlone alone (alone :: groups.map fun _ => []) := by
  have hbuilt := BuiltItem.ofItems_eq_ok h
  have hidle : BuiltItem.isIdle alone = false := by
    rw [← Bool.not_eq_true, BuiltItem.isIdle_iff hbuilt]
    exact List.cons_ne_nil _ _
  cases hbuilt with
  | cons _ hrest =>
      cases hrest
      rename_i made _
      refine ⟨made, rfl, (Bool.or_eq_false_iff.mp hidle).right, ?_⟩
      rw [List.filter_cons_of_pos (by rw [hidle]; rfl)]
      simp [BuiltItem.isIdle]

theorem ofGroups_of_sole {sources : Sources} {catalog : Catalog} {groups : List FilterGroup}
    {key : String} {item : FilterItem}
    (h : (groups.filter fun group => !group.items.isEmpty) = [⟨key, [item]⟩]) :
    Agree BuiltAlone (BuiltItem.ofItems sources catalog [item])
      (BuiltItem.ofGroups sources catalog groups) := by
  induction groups with
  | nil =>
      cases h
  | cons group groups ih =>
      rcases group with ⟨other, items⟩
      cases items with
      | nil =>
          refine (ih (by simpa using h)).follow ?_
          intro alone built hbuilt
          exact Agree.ok hbuilt
      | cons first rest =>
          rw [List.filter_cons_of_pos (by rfl)] at h
          injection h with hfirst hrest
          injection hfirst with _ hitems
          unfold BuiltItem.ofGroups
          rw [hitems, ofGroups_of_empty hrest]
          cases halone : BuiltItem.ofItems sources catalog [item] with
          | error cause =>
              exact Agree.error cause
          | ok alone =>
              exact Agree.ok (builtAlone_cons halone groups)

theorem foldl_and_holds {user : User} (p : Predicate) {qs : List Predicate}
    (h : forall q, q ∈ qs -> q.holds user = .ok true) :
    (qs.foldl Predicate.and p).holds user = p.holds user := by
  rw [Predicate.foldl_and_holds, (Predicate.allHold_eq_true qs).mpr h]
  exact Connective.conjunction.inTurn_neutral_right _

/-- The plan selects the users that the filter asks for. -/
def SelectsAs (alone : List BuiltItem) (assembled : Assembled) : Prop :=
  exists made : BuiltItem, alone = [made] ∧
    forall user : User, user.HasTotals ->
      assembled.plan.selection.holds user = made.predicate.holds user

theorem SoleFilter.assemble {compiler : Compiler} {form : Form} {key : String}
    {item : FilterItem} (hsole : compiler.SoleFilter form key item) :
    Agree SelectsAs (BuiltItem.ofItems compiler.sources compiler.catalog [item])
      (compiler.assemble form) := by
  rcases hsole.groups with ⟨groups, hgroups, hfilter⟩
  rcases hsole.others with ⟨ids, extensions, hids, hextensions, hidle⟩
  have hassemble : compiler.assemble form =
      BuiltItem.ofGroups compiler.sources compiler.catalog groups >>= fun built =>
        .ok (Parts.assembled ⟨groups, built, ids, extensions⟩ compiler form) := by
    rw [assemble_eq_map_parts, parts, mapError_eq_ok.mpr hgroups, mapError_eq_ok.mpr hids,
      hextensions]
    simp only [bind, Except.bind]
    cases BuiltItem.ofGroups compiler.sources compiler.catalog groups <;> rfl
  rw [hassemble]
  refine (ofGroups_of_sole hfilter).follow ?_
  intro alone built hbuilt
  rcases hbuilt with ⟨made, halone, hnarrow, hbuilt⟩
  apply Agree.ok
  refine ⟨made, halone, ?_⟩
  intro user htotals
  have hselection : selectionOf built = made.predicate := by
    rw [selectionOf, hbuilt]
    rfl
  have hnarrows : (Parts.wanted ⟨groups, built, ids, extensions⟩ compiler form).isBaseline =
      false := by
    rw [Plan.isBaseline, wanted_selection, Predicate.isUnfiltered_foldl_and,
      Predicate.isUnfiltered_foldl_and, hselection, hnarrow]
    rfl
  have hplan : (Parts.assembled ⟨groups, built, ids, extensions⟩ compiler form).plan.selection =
      (Parts.wanted ⟨groups, built, ids, extensions⟩ compiler form).selection := by
    rw [Parts.assembled, Parts.subscribed, hsole.everyone, Parts.modified, guarded, hnarrows]
    cases hmodifier : compiler.modifier with
    | none =>
        rfl
    | some modify =>
        exact hsole.modifier modify hmodifier _
  rw [hplan, wanted_selection, foldl_and_holds, foldl_and_holds, hselection]
  · intro q hq
    rcases List.mem_map.mp hq with ⟨narrowing, hmem, rfl⟩
    exact hidle narrowing (List.mem_append_left _ hmem) user htotals
  · intro q hq
    rcases List.mem_map.mp hq with ⟨narrowing, hmem, rfl⟩
    exact hidle narrowing (List.mem_append_right _ hmem) user htotals

/-!
## Two halves of the users
-/

/-- Each user whose totals are in range is told by exactly one of the predicates. -/
def Complementary (p q : Predicate) : Prop :=
  forall user : User, user.HasTotals ->
    exists answer, p.holds user = .ok answer ∧ q.holds user = .ok (!answer)

/-- Of all users whose totals are in range, each plan selects those that the other leaves. -/
def Splits (p q : Plan) : Prop :=
  exists chosen : User -> Bool,
    forall users : List User, (forall user, user ∈ users -> user.HasTotals) ->
      selected p.selection users = .ok (users.filter chosen) ∧
        selected q.selection users = .ok (users.filter fun user => !chosen user)

theorem selected_eq_filter {p : Predicate} {chosen : User -> Bool} {users : List User}
    (h : forall user, user ∈ users -> p.holds user = .ok (chosen user)) :
    selected p users = .ok (users.filter chosen) := by
  induction users with
  | nil =>
      rfl
  | cons user users ih =>
      rw [List.forall_mem_cons] at h
      rw [selected, h.left, ih h.right, List.filter_cons]
      rfl

theorem splits_of_complementary {p q : Plan} (h : Complementary p.selection q.selection) :
    Splits p q := by
  exists fun user => decide (p.selection.holds user = .ok true)
  intro users htotals
  constructor
  · apply selected_eq_filter
    intro user huser
    rcases h user (htotals user huser) with ⟨answer, hanswer, _⟩
    rw [hanswer]
    cases answer <;> rfl
  · apply selected_eq_filter
    intro user huser
    rcases h user (htotals user huser) with ⟨answer, hanswer, hother⟩
    dsimp only
    rw [hother, hanswer]
    cases answer <;> rfl

private theorem complementary_of_opposite {built other : BuiltItem}
    (h : BuiltItem.Opposite built other) :
    Complementary built.predicate other.predicate := by
  intro user htotals
  rcases Predicate.holds_isOk htotals built.predicate with ⟨answer, hanswer⟩
  refine ⟨answer, hanswer, ?_⟩
  rw [h, Predicate.holds_negate, hanswer]
  rfl

private theorem ofItems_turned (sources : Sources) (catalog : Catalog) (item : FilterItem) :
    Agree (fun alone others => exists built other : BuiltItem,
        alone = [built] ∧ others = [other] ∧ BuiltItem.Opposite built other)
      (BuiltItem.ofItems sources catalog [item.turned true])
      (BuiltItem.ofItems sources catalog [item.turned false]) := by
  unfold BuiltItem.ofItems
  simp only [FilterItem.name_turned]
  cases catalog.get? item.name with
  | none =>
      exact Agree.error _
  | some spec =>
      refine Agree.bind (BuiltItem.ofItem_turned sources spec item) ?_
      intro built other hopposite
      exact Agree.ok ⟨built, other, rfl, rfl, hopposite⟩

/--
A filter and the same filter turned round fail with the same error or divide the users:
each user is told by exactly one of them.  So a request that one filter alone narrows and
the same request with its toggle turned select one half of the users each, whatever columns
are shown.
-/
theorem toggles_split_users :
    (forall (sources : Sources) (spec : FilterSpec) (item : FilterItem),
      Agree (fun included excluded =>
          (forall user : User, excluded.predicate.holds user =
            (included.predicate.holds user).map (!·)) ∧
          Complementary included.predicate excluded.predicate)
        (BuiltItem.ofItem sources spec (item.turned true))
        (BuiltItem.ofItem sources spec (item.turned false))) ∧
    forall (compiler : Compiler) (form other : Form) (key number : String)
      (item : FilterItem),
      compiler.SoleFilter form key item ->
      FilterGroup.number? key = some number ->
      FilterGroup.TurnedAt (FilterGroup.toggleField form key number item.name) form other ->
      Agree (fun included excluded => Splits included.plan excluded.plan)
        (compiler.assemble form) (compiler.assemble other) := by
  constructor
  · intro sources spec item
    refine (BuiltItem.ofItem_turned sources spec item).imp ?_
    intro included excluded hopposite
    refine ⟨?_, complementary_of_opposite hopposite⟩
    intro user
    rw [hopposite, Predicate.holds_negate]
  · intro compiler form other key number item hsole hnumber hturned
    rcases hsole.turned hnumber hturned with ⟨hitem, hother⟩
    have hopposite := ofItems_turned compiler.sources compiler.catalog item
    rw [hitem] at hopposite
    refine hsole.assemble.across hopposite hother.assemble ?_
    intro alone others included excluded hincluded hbuilt hexcluded
    rcases hbuilt with ⟨built, turned, rfl, rfl, hopposite⟩
    rcases hincluded with ⟨first, hfirst, hincluded⟩
    rcases hexcluded with ⟨second, hsecond, hexcluded⟩
    cases hfirst
    cases hsecond
    apply splits_of_complementary
    intro user htotals
    rw [hincluded user htotals, hexcluded user htotals]
    exact complementary_of_opposite hopposite user htotals

/-- Asks for the donors since a date, whether they are subscribed or not. -/
def donors (toggle : String) : Form :=
  ⟨[("include:1", "donated_more"), ("1_donated_more", "20"),
    ("1_donated_more__since", "2021-06-01"), ("1_donated_more_istoggle", toggle),
    ("subscription_all_users", "1")]⟩

def donorFilter : FilterItem :=
  ⟨"donated_more", ["20"], true, [("since", "2021-06-01")]⟩

theorem toggles_split_donors :
    (standalone {}).SoleFilter (donors "1") "include:1" donorFilter ∧
      FilterGroup.TurnedAt "1_donated_more_istoggle" (donors "1") (donors "0") ∧
      exists included excluded, (standalone {}).assemble (donors "1") = .ok included ∧
        (standalone {}).assemble (donors "0") = .ok excluded ∧
        included.plan.selection.holds (User.unknown 7 "unsubscribed") = .ok false ∧
        excluded.plan.selection.holds (User.unknown 7 "unsubscribed") = .ok true ∧
        Splits included.plan excluded.plan := by
  have hsole : (standalone {}).SoleFilter (donors "1") "include:1" donorFilter := {
    groups := ⟨[⟨"include:1", [donorFilter]⟩], rfl, rfl⟩
    others := ⟨none, [], rfl, rfl, by simp [show textSearch? (donors "1") = none from rfl]⟩
    everyone := rfl
    modifier := by
      intro modify h
      cases h }
  have hturned : FilterGroup.TurnedAt "1_donated_more_istoggle" (donors "1") (donors "0") := {
    same := by
      unfold Form.SameBut donors
      simp
    included := rfl
    excluded := rfl }
  have hrun : forall toggle, toggle = "1" ∨ toggle = "0" ->
      ((standalone {}).assemble (donors toggle)).map
        (fun assembled => assembled.plan.selection.holds (User.unknown 7 "unsubscribed")) =
          .ok (.ok (toggle == "0")) := by
    intro toggle h
    rcases h with rfl | rfl <;> rfl
  have hsplits := toggles_split_users.right (standalone {}) (donors "1") (donors "0")
    "include:1" "1" donorFilter hsole rfl hturned
  refine ⟨hsole, hturned, ?_⟩
  have hincluded := hrun "1" (Or.inl rfl)
  have hexcluded := hrun "0" (Or.inr rfl)
  generalize (standalone {}).assemble (donors "1") = first at hsplits hincluded ⊢
  generalize (standalone {}).assemble (donors "0") = second at hsplits hexcluded ⊢
  cases hsplits with
  | error cause =>
      cases hincluded
  | ok hsplits =>
      exact ⟨_, _, rfl, rfl, Except.ok.inj hincluded, Except.ok.inj hexcluded, hsplits⟩

end Compiler
end Audience
