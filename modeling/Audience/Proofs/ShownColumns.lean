import Audience.Proofs.TurnedRequests

/-!
# Shown columns and selected users

## Compilers that differ in the columns

Whether the report columns are shown is a setting of its own.  It has no say in the stages of
a compilation and in what the stages narrow, but the guard against requests that narrow
nothing looks at whole plans, the columns included.
-/

namespace Audience
namespace Compiler

def showing (compiler : Compiler) (shown : Bool) : Compiler :=
  { compiler with settings := { compiler.settings with reportColumns := shown } }

/-- The modifier, if there is one, makes the same selection of plans with the same
selection, whatever columns they show. -/
def ModifiesSelectionAlone (modifier : Option (Plan -> Plan)) : Prop :=
  forall modify, modifier = some modify ->
    forall plan other : Plan, plan.selection = other.selection ->
      (modify plan).selection = (modify other).selection

/-- The plans select the same users of any list of users. -/
def SelectsSame (plan other : Plan) : Prop :=
  forall users : List User, selected plan.selection users = selected other.selection users

variable {compiler : Compiler} {form : Form}

theorem parts_showing (compiler : Compiler) (form : Form) (shown : Bool) :
    (compiler.showing shown).parts form = compiler.parts form := rfl

theorem subscribed_showing (compiler : Compiler) (form : Form) (shown : Bool) :
    Parts.subscribed (compiler.showing shown) form = Parts.subscribed compiler form := rfl

theorem assembled_selection (parts : Parts) (compiler : Compiler) (form : Form) :
    (parts.assembled compiler form).plan.selection =
      ((Parts.subscribed compiler form).map (·.predicate)).foldl Predicate.and
        (parts.modified compiler form).selection := by
  rw [Parts.assembled, Plan.distinct, narrowed_selection]

/-!
## The guard
-/

theorem wanted_selection_showing (parts : Parts) (compiler : Compiler) (form : Form)
    (shown : Bool) :
    (parts.wanted (compiler.showing shown) form).selection =
      (parts.wanted compiler form).selection := by
  rw [wanted_selection, wanted_selection]

theorem isBaseline_showing_true (parts : Parts) (compiler : Compiler) (form : Form) :
    (parts.wanted (compiler.showing true) form).isBaseline = false := by
  have hshown := wanted_shown_iff parts (compiler.showing true) form
  have hcolumns : (compiler.showing true).settings.reportColumns = true := rfl
  rw [hcolumns] at hshown
  rw [Plan.isBaseline, Bool.and_assoc, Bool.and_eq_false_iff]
  right
  rw [Bool.eq_false_iff]
  intro h
  exact Bool.noConfusion (hshown.mp h)

theorem guarded_of_narrowed {plan : Plan} (h : plan.isBaseline = false) :
    guarded plan = plan := by
  rw [guarded, if_neg (by rw [h]; exact Bool.false_ne_true)]

/-- Unless the guard finds the baseline, it leaves the same selection with and without the
report columns. -/
private theorem guarded_selection_showing {parts : Parts}
    (h : (parts.wanted (compiler.showing false) form).isBaseline = false) :
    (guarded (parts.wanted (compiler.showing true) form)).selection =
      (guarded (parts.wanted (compiler.showing false) form)).selection := by
  rw [guarded_of_narrowed (isBaseline_showing_true parts compiler form),
    guarded_of_narrowed h, wanted_selection_showing, wanted_selection_showing]

theorem modified_selection_showing {parts : Parts}
    (hmodifier : ModifiesSelectionAlone compiler.modifier)
    (h : (parts.wanted (compiler.showing false) form).isBaseline = false) :
    (parts.modified (compiler.showing true) form).selection =
      (parts.modified (compiler.showing false) form).selection := by
  have hguarded := guarded_selection_showing h
  unfold Parts.modified
  have hsame : forall shown, (compiler.showing shown).modifier = compiler.modifier :=
    fun shown => rfl
  rw [hsame, hsame]
  cases hmodify : compiler.modifier with
  | none =>
      exact hguarded
  | some modify =>
      exact hmodifier modify hmodify _ _ hguarded

theorem selection_of_isBaseline {plan : Plan} (h : plan.isBaseline = true) :
    plan.selection = .everyone := by
  rw [Plan.isBaseline, Bool.and_assoc, Bool.and_eq_true] at h
  exact Predicate.isUnfiltered_eq_true.mp h.left

/-!
## Requests that nothing narrows
-/

theorem subscribed_holds (compiler : Compiler) (form : Form) {p : Predicate} {user : User}
    {answer : Bool} (h : p.holds user = .ok answer) :
    (((Parts.subscribed compiler form).map (·.predicate)).foldl Predicate.and p).holds user =
      .ok (answer &&
        (asksForAll form || user.subscriptionStatus == compiler.settings.subscribedStatus)) := by
  unfold Parts.subscribed
  cases asksForAll form with
  | true =>
      simp [h]
  | false =>
      have hsubscription : (subscription compiler.settings).predicate.holds user =
          .ok (user.subscriptionStatus == compiler.settings.subscribedStatus) := rfl
      simp only [Bool.false_eq_true, if_false, List.map_cons, List.map_nil, List.foldl_cons,
        List.foldl_nil, Predicate.holds_and, h, hsubscription, Bool.false_or]
      cases answer <;> rfl

/-- Without the report columns a request that nothing narrows selects nobody. -/
private theorem selected_idle_bare {parts : Parts} (hmodifier : compiler.modifier = none)
    (h : (parts.wanted (compiler.showing false) form).isBaseline = true) (users : List User) :
    selected (parts.assembled (compiler.showing false) form).plan.selection users = .ok [] := by
  have hguarded : (parts.modified (compiler.showing false) form).selection = .nobody := by
    have hnone : (compiler.showing false).modifier = none := hmodifier
    rw [Parts.modified, hnone]
    dsimp only
    rw [guarded, if_pos h]
    rfl
  have hnobody : forall user : User, user ∈ users ->
      (parts.assembled (compiler.showing false) form).plan.selection.holds user =
        .ok false := by
    intro user _
    have hholds : Predicate.nobody.holds user = .ok false := rfl
    rw [assembled_selection, hguarded]
    exact subscribed_holds _ form hholds
  rw [selected_eq_filter hnobody]
  simp

/-- With the report columns it selects all users that the subscription allows. -/
private theorem selected_idle_shown {parts : Parts} (hmodifier : compiler.modifier = none)
    (h : (parts.wanted (compiler.showing false) form).isBaseline = true) (users : List User) :
    selected (parts.assembled (compiler.showing true) form).plan.selection users =
      .ok (users.filter fun user => asksForAll form ||
        user.subscriptionStatus == compiler.settings.subscribedStatus) := by
  have hmodified : (parts.modified (compiler.showing true) form).selection = .everyone := by
    have hnone : (compiler.showing true).modifier = none := hmodifier
    rw [Parts.modified, hnone]
    dsimp only
    rw [guarded_of_narrowed (isBaseline_showing_true parts compiler form),
      wanted_selection_showing, ← wanted_selection_showing parts compiler form false]
    exact selection_of_isBaseline h
  apply selected_eq_filter
  intro user _
  have hholds : Predicate.everyone.holds user = .ok true := rfl
  rw [assembled_selection, hmodified]
  exact subscribed_holds _ form hholds

/--
With and without the report columns a request fails with the same error or has the same
description, and unless nothing narrows it both plans select the same users.  A request that
nothing narrows selects nobody without the report columns, and everybody that the
subscription allows with them.
-/
theorem report_columns_keep_selection (compiler : Compiler) (form : Form) :
    Agree (fun shown bare =>
        shown.description = bare.description ∧
        (ModifiesSelectionAlone compiler.modifier ->
          ¬ (compiler.showing false).NarrowsNothing form ->
            SelectsSame shown.plan bare.plan) ∧
        (compiler.modifier = none -> (compiler.showing false).NarrowsNothing form ->
          forall users : List User,
            selected bare.plan.selection users = .ok [] ∧
              selected shown.plan.selection users =
                .ok (users.filter fun user => asksForAll form ||
                  user.subscriptionStatus == compiler.settings.subscribedStatus)))
      ((compiler.showing true).assemble form) ((compiler.showing false).assemble form) := by
  rw [assemble_eq_map_parts, assemble_eq_map_parts, parts_showing, parts_showing]
  cases hparts : compiler.parts form with
  | error cause =>
      exact Agree.error cause
  | ok parts =>
      have hnothing : (compiler.showing false).NarrowsNothing form <->
          (parts.wanted (compiler.showing false) form).isBaseline = true :=
        narrowsNothing_iff hparts
      apply Agree.ok
      refine ⟨rfl, ?_, ?_⟩
      · intro hmodifier hnarrows users
        rw [hnothing, Bool.not_eq_true] at hnarrows
        rw [assembled_selection, assembled_selection, subscribed_showing, subscribed_showing,
          modified_selection_showing hmodifier hnarrows]
      · intro hmodifier hidle users
        rw [hnothing] at hidle
        exact ⟨selected_idle_bare hmodifier hidle users,
          selected_idle_shown hmodifier hidle users⟩

theorem report_columns_keep_selection_listedAbroad :
    ModifiesSelectionAlone (standalone {}).modifier ∧
      ¬ ((standalone {}).showing false).NarrowsNothing listedAbroad ∧
      exists shown bare, ((standalone {}).showing true).assemble listedAbroad = .ok shown ∧
        ((standalone {}).showing false).assemble listedAbroad = .ok bare ∧
        shown.plan.columns ≠ bare.plan.columns ∧ SelectsSame shown.plan bare.plan := by
  have hmodifier : ModifiesSelectionAlone (standalone {}).modifier := by
    intro modify h
    cases h
  have hnarrows : ¬ ((standalone {}).showing false).NarrowsNothing listedAbroad := by
    intro h
    have hids := h.ids
    cases hids
  have hrun : forall shown, (((standalone {}).showing shown).assemble listedAbroad).map
      (fun assembled => assembled.plan.columns.length) = .ok (if shown then 7 else 1) := by
    intro shown
    cases shown <;> rfl
  have hshown := hrun true
  have hbare := hrun false
  have hagree := report_columns_keep_selection (standalone {}) listedAbroad
  refine ⟨hmodifier, hnarrows, ?_⟩
  generalize ((standalone {}).showing true).assemble listedAbroad = first at hagree hshown ⊢
  generalize ((standalone {}).showing false).assemble listedAbroad = second at hagree hbare ⊢
  cases hagree with
  | error cause =>
      cases hshown
  | ok hsame =>
      rename_i shown bare
      have hseven : shown.plan.columns.length = 7 := Except.ok.inj hshown
      have hone : bare.plan.columns.length = 1 := Except.ok.inj hbare
      refine ⟨shown, bare, rfl, rfl, ?_, hsame.right.left hmodifier hnarrows⟩
      intro hcolumns
      rw [hcolumns, hone] at hseven
      cases hseven

def blankCountry : Form :=
  ⟨[("include:1", "country"), ("1_country", "")]⟩

/-- The report columns decide whether a request that nothing narrows selects anybody. -/
theorem report_columns_decide_blankCountry :
    exists shown bare, ((standalone {}).showing true).assemble blankCountry = .ok shown ∧
      ((standalone {}).showing false).assemble blankCountry = .ok bare ∧
      shown.plan.matchingIds [User.unknown 1 "subscribed"] = .ok [1] ∧
      bare.plan.matchingIds [User.unknown 1 "subscribed"] = .ok [] := by
  exact ⟨_, _, rfl, rfl, rfl, rfl⟩

end Compiler
end Audience
