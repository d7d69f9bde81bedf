import Audience.Proofs.FirstFailure
import Audience.Proofs.ShownColumns

/-!
# Descriptions and selections side by side

## Accounts

A request comes down to an account of it: the built filters of its groups, the searched name
and email, the listed ids, the conditions of the columns, and the subscription.  The
description puts the words of an account one behind the other, and the selection puts its
conditions together, each in the same place.
-/

namespace Audience

/-- What a request asks for, for the description and for the selection alike. -/
structure Account where
  groups : List (List BuiltItem)
  name : Option String
  email : Option String
  ids : Option (List Int)
  columns : List Extension
  /-- The status of those who are left, unless everybody is. -/
  subscribed : Option String

namespace Account

def groupText (account : Account) : String :=
  String.intercalate "\n or " <| account.groups.map fun items =>
    "(" ++ String.intercalate " and " (items.map (·.phrase)) ++ ")"

def nameLine (name : String) : String :=
  "\n and name is like \"" ++ name ++ "\""

def emailLine (email : String) : String :=
  "\n and email is like \"" ++ email ++ "\""

def idsLine (ids : List Int) : String :=
  "\n and AKID is in [" ++ String.intercalate ", " (ids.map toString) ++ "]"

def columnLine (column : Extension) : String :=
  "\n and " ++ column.phrase

def subscribedLine (status : String) : String :=
  "\n and subscription_status is '" ++ status ++ "'"

def lines (account : Account) : List String :=
  (account.name.map nameLine).toList ++ (account.email.map emailLine).toList ++
    (account.ids.map idsLine).toList ++ account.columns.map columnLine ++
      (account.subscribed.map subscribedLine).toList

def text (account : Account) : String :=
  account.groupText ++ String.join account.lines

def groupSelection (account : Account) : Predicate :=
  match account.groups with
  | [] => .everyone
  | groups =>
      (groups.map fun items =>
        (items.map (·.predicate)).foldl Predicate.and .everyone).foldl Predicate.or .nobody

def nameCondition (name : String) : Predicate :=
  .like .fullName (Compiler.namePattern name)

def emailCondition (email : String) : Predicate :=
  .like .email (Compiler.emailPattern email)

def textCondition? (account : Account) : Option Predicate :=
  match account.name, account.email with
  | some name, some email => some ((nameCondition name).or (emailCondition email))
  | some name, none => some (nameCondition name)
  | none, some email => some (emailCondition email)
  | none, none => none

def conditions (account : Account) : List Predicate :=
  account.textCondition?.toList ++ (account.ids.map Predicate.idIn).toList ++
    account.columns.map (·.predicate)

/-- The selection before the subscription is looked at: nobody, if nothing narrows it and
the report columns are off. -/
def narrowed (account : Account) (reportColumns : Bool) : Predicate :=
  match account.conditions.foldl Predicate.and account.groupSelection, reportColumns with
  | .everyone, false => .nobody
  | p, _ => p

def selection (account : Account) (reportColumns : Bool) : Predicate :=
  match account.subscribed with
  | some status =>
      (account.narrowed reportColumns).and (.columnIs .subscriptionStatus status)
  | none => account.narrowed reportColumns

def ListedIn : Option String -> Option (List Int) -> Prop :=
  Option.Rel fun raw ids => Entry.userIds raw = .ok ids

def LoadedFrom (registry : ExtensionRegistry) : List ExtensionColumn -> List Extension -> Prop :=
  List.Forall₂ fun column extension => registry.load column = .ok extension

/-- The account of a form: every part is what the compiler makes of this part of it. -/
structure IsOf (account : Account) (compiler : Compiler) (form : Form) : Prop where
  /-- The filters of all groups that have any, in their places. -/
  groups :
    exists groups, FilterGroup.ofForm form compiler.catalog = .ok groups ∧
      compiler.BuiltGroups (groups.filter fun group => !group.items.isEmpty) account.groups
  filled : forall items, items ∈ account.groups -> items ≠ []
  name : account.name = form.filled? "user_name"
  email : account.email = form.filled? "user_email"
  ids : ListedIn (form.filled? "user_akid") account.ids
  columns :
    exists columns, compiler.requestedColumns form = .ok columns ∧
      LoadedFrom compiler.extensions columns account.columns
  subscribed :
    account.subscribed =
      if Compiler.asksForAll form then none else some compiler.settings.subscribedStatus

end Account

/-!
## Groups
-/

namespace Compiler

variable {compiler : Compiler} {form : Form}

/-- What is built for the groups that have filters is what the plan does not leave out. -/
theorem builtGroups_filter {groups : List FilterGroup} {built : List (List BuiltItem)}
    (h : compiler.BuiltGroups groups built) :
    compiler.BuiltGroups (groups.filter fun group => !group.items.isEmpty)
      (built.filter fun items => !BuiltItem.isIdle items) := by
  induction h with
  | nil =>
      exact List.Forall₂.nil
  | cons hfirst hrest ih =>
      rename_i group items groups built
      have hidle : BuiltItem.isIdle items = group.items.isEmpty := by
        rw [Bool.eq_iff_iff, BuiltItem.isIdle_iff hfirst, List.isEmpty_iff]
      rw [List.filter_cons, List.filter_cons, hidle]
      split
      · exact List.Forall₂.cons hfirst ih
      · exact ih

theorem ne_nil_of_mem_narrowing {built : List (List BuiltItem)} {items : List BuiltItem}
    (h : items ∈ built.filter fun items => !BuiltItem.isIdle items) :
    items ≠ [] := by
  intro h
  rcases h with rfl
  have hidle : (!BuiltItem.isIdle []) = true := (List.mem_filter.mp h).right
  cases hidle

theorem builtGroups_unique {groups : List FilterGroup} {built other : List (List BuiltItem)}
    (h : compiler.BuiltGroups groups built) (hother : compiler.BuiltGroups groups other) :
    built = other := by
  have hitem : Relator.RightUnique
      (BuiltItem.BuiltFrom compiler.sources compiler.catalog) := fun _ _ _ => builtFrom_unique
  refine List.right_unique_forall₂' ?_ h hother
  intro group items others hitems hothers
  exact hitem.forall₂ hitems hothers

/-!
## Searches, listed ids and columns
-/

def idsNarrowing (ids : List Int) : Narrowing :=
  ⟨.idIn ids, Account.idsLine ids⟩

def columnNarrowing (extension : Extension) : Narrowing :=
  ⟨extension.predicate, Account.columnLine extension⟩

theorem textSearch_condition {account : Account}
    (hname : account.name = form.filled? "user_name")
    (hemail : account.email = form.filled? "user_email") :
    (textSearch? form).toList.map (·.predicate) = account.textCondition?.toList := by
  unfold textSearch? nameSearch? emailSearch? Account.textCondition?
  rw [hname, hemail]
  cases form.filled? "user_name" <;> cases form.filled? "user_email" <;> rfl

theorem textSearch_lines {account : Account}
    (hname : account.name = form.filled? "user_name")
    (hemail : account.email = form.filled? "user_email") :
    String.join ((textSearch? form).toList.map (·.line)) =
      String.join ((account.name.map Account.nameLine).toList ++
        (account.email.map Account.emailLine).toList) := by
  rw [hname, hemail]
  unfold textSearch? nameSearch? emailSearch?
  cases form.filled? "user_name" with
  | none =>
      cases form.filled? "user_email" <;> rfl
  | some name =>
      cases form.filled? "user_email" with
      | none =>
          rfl
      | some email =>
          dsimp only [Option.map, Option.toList, List.map, List.cons_append, List.nil_append,
            Account.nameLine, Account.emailLine]
          rw [String.join_cons, String.join_cons, String.join_cons, String.join_nil,
            String.append_assoc]

theorem idSearch_eq_ok {search : Option Narrowing} (h : idSearch? form = .ok search) :
    exists ids, Account.ListedIn (form.filled? "user_akid") ids ∧
      search = ids.map idsNarrowing := by
  unfold idSearch? at h
  cases hraw : form.filled? "user_akid" with
  | none =>
      rw [hraw] at h
      exact ⟨none, .none, (Except.ok.inj h).symm⟩
  | some raw =>
      rw [hraw] at h
      rcases bind_eq_ok.mp h with ⟨ids, hids, h⟩
      exact ⟨some ids, .some hids, (Except.ok.inj h).symm⟩

theorem extensionsOf_eq_map {registry : ExtensionRegistry} {columns : List ExtensionColumn}
    {narrowings : List Narrowing} (h : extensionsOf registry columns = .ok narrowings) :
    exists extensions, Account.LoadedFrom registry columns extensions ∧
      narrowings = extensions.map columnNarrowing := by
  induction columns generalizing narrowings with
  | nil =>
      cases h
      exact ⟨[], List.Forall₂.nil, rfl⟩
  | cons column columns ih =>
      unfold extensionsOf at h
      rcases bind_eq_ok.mp h with ⟨extension, hextension, h⟩
      rcases bind_eq_ok.mp h with ⟨rest, hrest, h⟩
      rcases ih hrest with ⟨extensions, hextensions, rfl⟩
      cases h
      exact ⟨extension :: extensions, List.Forall₂.cons hextension hextensions, rfl⟩

theorem extensionSearch_eq_map {narrowings : List Narrowing}
    (h : compiler.extensionSearch form = .ok narrowings) :
    exists columns extensions, compiler.requestedColumns form = .ok columns ∧
      Account.LoadedFrom compiler.extensions columns extensions ∧
        narrowings = extensions.map columnNarrowing := by
  rw [extensionSearch_eq] at h
  rcases bind_eq_ok.mp h with ⟨columns, hcolumns, h⟩
  rcases extensionsOf_eq_map (mapError_eq_ok.mp h) with ⟨extensions, hextensions, hnarrowings⟩
  exact ⟨columns, extensions, mapError_eq_ok.mp hcolumns, hextensions, hnarrowings⟩

/-!
## The account of a request
-/

theorem guarded_selection (parts : Parts) (compiler : Compiler) (form : Form) :
    (guarded (parts.wanted compiler form)).selection =
      match (parts.wanted compiler form).selection, compiler.settings.reportColumns with
      | .everyone, false => .nobody
      | p, _ => p := by
  have hshown := wanted_shown_iff parts compiler form
  have hbaseline : (parts.wanted compiler form).isBaseline = true <->
      (parts.wanted compiler form).selection = .everyone ∧
        compiler.settings.reportColumns = false := by
    rw [Plan.isBaseline, Bool.and_assoc, Bool.and_eq_true, hshown,
      Predicate.isUnfiltered_eq_true]
  split
  · rename_i hselection hcolumns
    rw [guarded, if_pos (hbaseline.mpr ⟨hselection, hcolumns⟩)]
    rfl
  · rename_i hother
    have hnarrowed : (parts.wanted compiler form).isBaseline ≠ true := by
      intro h
      rcases hbaseline.mp h with ⟨hselection, hcolumns⟩
      exact hother hselection hcolumns
    rw [guarded, if_neg hnarrowed]

theorem selectionOf_eq_groupSelection {account : Account} {built : List (List BuiltItem)}
    (h : account.groups = built.filter fun items => !BuiltItem.isIdle items) :
    selectionOf built = account.groupSelection := by
  unfold selectionOf Account.groupSelection
  rw [h]
  cases built.filter fun items => !BuiltItem.isIdle items with
  | nil =>
      rfl
  | cons items groups =>
      simp only [List.foldl_map, BuiltItem.conjunction]

def accountOf (compiler : Compiler) (form : Form) (built : List (List BuiltItem))
    (ids : Option (List Int)) (columns : List Extension) : Account where
  groups := built.filter fun items => !BuiltItem.isIdle items
  name := form.filled? "user_name"
  email := form.filled? "user_email"
  ids := ids
  columns := columns
  subscribed := if asksForAll form then none else some compiler.settings.subscribedStatus

variable {parts : Parts} {ids : Option (List Int)} {columns : List Extension}

private theorem conditions_accountOf (hids : parts.ids = ids.map idsNarrowing)
    (hcolumns : parts.extensions = columns.map columnNarrowing) :
    (accountOf compiler form parts.built ids columns).conditions =
      (parts.overrides form ++ parts.extensions).map (·.predicate) := by
  have htext := @textSearch_condition form (accountOf compiler form parts.built ids columns)
    rfl rfl
  rw [Parts.overrides, List.map_append, List.map_append, htext, hids, hcolumns,
    Account.conditions]
  cases ids <;> simp [accountOf, idsNarrowing, columnNarrowing]

private theorem lines_accountOf (hids : parts.ids = ids.map idsNarrowing)
    (hcolumns : parts.extensions = columns.map columnNarrowing) :
    String.join (accountOf compiler form parts.built ids columns).lines =
      String.join
        ((parts.overrides form ++ parts.extensions ++
          Parts.subscribed compiler form).map (·.line)) := by
  have htext := @textSearch_lines form (accountOf compiler form parts.built ids columns)
    rfl rfl
  have hidLines : parts.ids.toList.map (·.line) = (ids.map Account.idsLine).toList := by
    rw [hids]
    cases ids <;> rfl
  have hcolumnLines : parts.extensions.map (·.line) = columns.map Account.columnLine := by
    rw [hcolumns, List.map_map]
    rfl
  have hsubscribed : (Parts.subscribed compiler form).map (·.line) =
      ((accountOf compiler form parts.built ids columns).subscribed.map
        Account.subscribedLine).toList := by
    rw [accountOf, Parts.subscribed]
    cases asksForAll form <;> rfl
  rw [Account.lines, Parts.overrides, List.map_append, List.map_append, List.map_append,
    hidLines, hcolumnLines, hsubscribed]
  simp only [String.join_append] at htext ⊢
  rw [htext]
  rfl

theorem exists_account_of_parts (h : compiler.parts form = .ok parts) :
    exists account : Account, account.IsOf compiler form ∧
      account.groups = (parts.built.filter fun items => !BuiltItem.isIdle items) ∧
      account.conditions = (parts.overrides form ++ parts.extensions).map (·.predicate) ∧
      String.join account.lines =
        String.join
          ((parts.overrides form ++ parts.extensions ++
            Parts.subscribed compiler form).map (·.line)) := by
  rcases parts_eq_ok h with ⟨hgroups, hbuilt, hids, hextensions⟩
  rcases idSearch_eq_ok hids with ⟨ids, hread, hids⟩
  rcases extensionSearch_eq_map hextensions with
    ⟨found, columns, hfound, hloaded, hcolumns⟩
  have hisOf : (accountOf compiler form parts.built ids columns).IsOf compiler form := {
    groups := ⟨parts.groups, hgroups, builtGroups_filter (BuiltItem.ofGroups_eq_ok hbuilt)⟩
    filled := fun items hitems => ne_nil_of_mem_narrowing hitems
    name := rfl
    email := rfl
    ids := hread
    columns := ⟨found, hfound, hloaded⟩
    subscribed := rfl }
  exact ⟨_, hisOf, rfl, conditions_accountOf hids hcolumns, lines_accountOf hids hcolumns⟩

private theorem listedIds_unique {entered : Option String} {ids other : Option (List Int)}
    (h : Account.ListedIn entered ids) (hother : Account.ListedIn entered other) :
    ids = other := by
  cases h with
  | none =>
      cases hother
      rfl
  | some hread =>
      cases hother with
      | some hreadOther =>
          rw [hread] at hreadOther
          rw [Except.ok.inj hreadOther]

private theorem loaded_unique {registry : ExtensionRegistry} {found : List ExtensionColumn}
    {columns other : List Extension}
    (h : Account.LoadedFrom registry found columns)
    (hother : Account.LoadedFrom registry found other) :
    columns = other := by
  refine List.right_unique_forall₂' ?_ h hother
  intro column extension second hload hsecond
  exact Except.ok.inj (hload.symm.trans hsecond)

private theorem isOf_unique {account other : Account} (h : account.IsOf compiler form)
    (hother : other.IsOf compiler form) :
    other = account := by
  rcases h.groups with ⟨groups, hread, hbuilt⟩
  rcases hother.groups with ⟨otherGroups, hotherRead, hotherBuilt⟩
  rcases h.columns with ⟨found, hfound, hloaded⟩
  rcases hother.columns with ⟨otherFound, hotherFound, hotherLoaded⟩
  rw [hread] at hotherRead
  rw [hfound] at hotherFound
  cases hotherRead
  cases hotherFound
  have hgroups := builtGroups_unique hotherBuilt hbuilt
  have hids := listedIds_unique hother.ids h.ids
  have hcolumns := loaded_unique hotherLoaded hloaded
  have hname := hother.name.trans h.name.symm
  have hemail := hother.email.trans h.email.symm
  have hsubscribed := hother.subscribed.trans h.subscribed.symm
  cases account
  cases other
  cases hgroups
  cases hids
  cases hcolumns
  cases hname
  cases hemail
  cases hsubscribed
  rfl

/--
A request that is accepted has exactly one account, and the description and the selection of
its plan are the words and the conditions of this account.
-/
theorem assemble_describes_selection {assembled : Assembled}
    (hmodifier : compiler.modifier = none)
    (hassemble : compiler.assemble form = .ok assembled) :
    exists account : Account, account.IsOf compiler form ∧
      (forall other : Account, other.IsOf compiler form -> other = account) ∧
      assembled.description = account.text ∧
      assembled.plan.selection = account.selection compiler.settings.reportColumns := by
  rcases parts_of_assemble hassemble with ⟨parts, hparts, rfl⟩
  rcases exists_account_of_parts hparts with ⟨account, hisOf, hgroups, hconditions, hlines⟩
  refine ⟨account, hisOf, fun other hother => isOf_unique hisOf hother, ?_, ?_⟩
  · rw [Parts.assembled, ← hlines, Account.text, Account.groupText, hgroups]
    rfl
  · have hwanted : (parts.wanted compiler form).selection =
        account.conditions.foldl Predicate.and account.groupSelection := by
      rw [wanted_selection, ← List.foldl_append, ← List.map_append, ← hconditions,
        selectionOf_eq_groupSelection hgroups]
    have hnarrowed : (parts.modified compiler form).selection =
        account.narrowed compiler.settings.reportColumns := by
      rw [Parts.modified, hmodifier]
      dsimp only
      rw [guarded_selection, hwanted]
      rfl
    rw [assembled_selection, hnarrowed, Account.selection, hisOf.subscribed, Parts.subscribed]
    cases asksForAll form <;> rfl

/-- Asks for users by group, name, email, id and phone; the group without values is left
out. -/
def bySeveralMeans : Form :=
  ⟨[("include:1", "country"), ("1_country", "US"), ("1_country_istoggle", "0"),
    ("include:2", "city"), ("include:3", "state"), ("3_state", "NY"), ("user_name", "Ann"),
    ("user_email", "ann"), ("user_akid", "8, 7"), ("column", "phone")]⟩

def phoneColumn : ExtensionColumn :=
  ⟨1, "phone", "has a phone", "has_phone", ""⟩

def withPhoneColumn : Compiler :=
  { standalone {} with columns := ⟨fun names => .ok ([phoneColumn].filter fun column =>
      names.contains column.name)⟩ }

theorem assemble_describes_selection_bySeveralMeans :
    exists (assembled : Assembled) (account : Account), withPhoneColumn.modifier = none ∧
      withPhoneColumn.assemble bySeveralMeans = .ok assembled ∧
      account.IsOf withPhoneColumn bySeveralMeans ∧
      assembled.description = account.text ∧
      assembled.plan.selection =
        account.selection withPhoneColumn.settings.reportColumns ∧
      account.text =
        "(country is not in (US))\n or (state is in (NY))\n and name is like \"Ann\"" ++
          "\n and email is like \"ann\"\n and AKID is in [8, 7]\n and has a phone" ++
          "\n and subscription_status is 'subscribed'" := by
  have hrun : (withPhoneColumn.assemble bySeveralMeans).map (·.description) =
      .ok ("(country is not in (US))\n or (state is in (NY))\n and name is like \"Ann\"" ++
        "\n and email is like \"ann\"\n and AKID is in [8, 7]\n and has a phone" ++
        "\n and subscription_status is 'subscribed'") := by
    rfl
  cases hassemble : withPhoneColumn.assemble bySeveralMeans with
  | error cause =>
      rw [hassemble] at hrun
      cases hrun
  | ok assembled =>
      rw [hassemble] at hrun
      rcases assemble_describes_selection rfl hassemble with
        ⟨account, hisOf, _, hdescription, hselection⟩
      have htext := hdescription.symm.trans (Except.ok.inj hrun)
      exact ⟨assembled, account, rfl, rfl, hisOf, hdescription, hselection, htext⟩

end Compiler
end Audience
