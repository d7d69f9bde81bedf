import Mathlib.Data.List.TakeWhile
import Audience.Proofs.Denotation

/-!
# Only subscribers

## The field that lifts the constraint

The last value of one field of a form says whether users without a subscription are wanted
too.  Unless it asks for them, the subscription is conjoined onto whatever the plan has
become by then, also onto what a modifier has put in place of it.
-/

namespace Audience

namespace Text

theorem trim_eq_nil_iff (s : String) : trim s.toList = [] <-> blank s = true := by
  rw [trim, trimEnd, List.reverse_eq_nil_iff, List.dropWhile_eq_nil_iff, trimStart, blank,
    List.all_eq_true]
  constructor
  · intro h c hc
    rw [← @List.takeWhile_append_dropWhile _ isBlank s.toList, List.mem_append] at hc
    rcases hc with hc | hc
    · exact List.mem_takeWhile_imp hc
    · exact h c (List.mem_reverse.mpr hc)
  · intro h c hc
    exact h c ((List.dropWhile_sublist isBlank).subset (List.mem_reverse.mp hc))

end Text

namespace Compiler

def allUsersField : String := "subscription_all_users"

/-- The last value of the field, if there is any, is blank, zero or false in any case. -/
def AsksForSubscribers (value : Option String) : Prop :=
  forall raw, value = some raw ->
    Text.blank raw = true ∨ Text.trimmed raw = "0" ∨
      (Text.trim raw.toList).map Char.toLower = "false".toList

/-- No other field of the form has a say. -/
theorem asksForAll_eq_false_iff (form : Form) :
    asksForAll form = false <-> AsksForSubscribers (form.last? allUsersField) := by
  unfold asksForAll AsksForSubscribers allUsersField
  cases form.last? "subscription_all_users" with
  | none =>
      simp
  | some raw =>
      have hblank := Text.trim_eq_nil_iff raw
      have hzero : Text.trim raw.toList = ['0'] <-> Text.trimmed raw = "0" := by
        rw [Text.trimmed, ← String.toList_inj, String.toList_ofList]
        rfl
      have hfalse : ['f', 'a', 'l', 's', 'e'].map Char.toLower = "false".toList := by
        decide
      simp only [Option.map_some, Bool.not_eq_false', Bool.or_eq_true, List.isEmpty_iff,
        beq_iff_eq, Text.sameIgnoringAsciiCase, hfalse, hblank, hzero, Option.some.injEq,
        forall_eq', or_assoc]

/-!
## Plans within the constraint
-/

/-- The plan shows equal rows once and selects nobody without the subscription. -/
structure Fenced (settings : Settings) (plan : Plan) : Prop where
  distinct : plan.isDistinct = true
  subscribed :
    forall user : User, plan.selection.holds user = .ok true ->
      user.subscriptionStatus = settings.subscribedStatus

private theorem subscription_holds (settings : Settings) (user : User) :
    (subscription settings).predicate.holds user =
      .ok (user.subscriptionStatus == settings.subscribedStatus) := by
  rw [subscription, Predicate.holds, User.column]

/-- The subscription is decided last, and nothing but the subscription is added to what the
modifier has left. -/
theorem assembled_holds {compiler : Compiler} {form : Form} (parts : Parts)
    (hasks : asksForAll form = false) (user : User) :
    (parts.assembled compiler form).plan.selection.holds user =
      Predicate.both ((parts.modified compiler form).selection.holds user)
        (.ok (user.subscriptionStatus == compiler.settings.subscribedStatus)) := by
  have hselection : (parts.assembled compiler form).plan.selection =
      (parts.modified compiler form).selection.and
        (subscription compiler.settings).predicate := by
    simp [Parts.assembled, Parts.subscribed, hasks, narrowed, Plan.filter, Plan.distinct]
  rw [hselection, Predicate.holds_and, subscription_holds]

private theorem assembled_fenced {compiler : Compiler} {form : Form} {assembled : Assembled}
    (hassemble : compiler.assemble form = .ok assembled)
    (hasks : asksForAll form = false) :
    Fenced compiler.settings assembled.plan := by
  rcases parts_of_assemble hassemble with ⟨parts, _, rfl⟩
  refine ⟨rfl, ?_⟩
  intro user hholds
  rw [assembled_holds parts hasks, Predicate.both_eq_true] at hholds
  simpa using hholds.right

/--
Unless the last value of its own field lifts it, the subscription holds of every user that
a plan selects, whatever the filters ask for and whatever a modifier makes of the plan.  It
is all that is added: the users selected are the subscribers among those that the modifier
has left.
-/
theorem selection_stays_within_subscribers {compiler : Compiler} {form : Form}
    {assembled : Assembled} (hassemble : compiler.assemble form = .ok assembled)
    (hvalue : AsksForSubscribers (form.last? allUsersField)) :
    Fenced compiler.settings assembled.plan ∧
    (exists parts, compiler.parts form = .ok parts ∧
      forall user, assembled.plan.selection.holds user = .ok true <->
        (parts.modified compiler form).selection.holds user = .ok true ∧
          user.subscriptionStatus = compiler.settings.subscribedStatus) ∧
    forall other : Form, other.last? allUsersField = form.last? allUsersField ->
      forall found, compiler.assemble other = .ok found ->
        Fenced compiler.settings found.plan := by
  have hasks := (asksForAll_eq_false_iff form).mpr hvalue
  refine ⟨assembled_fenced hassemble hasks, ?_, ?_⟩
  · rcases parts_of_assemble hassemble with ⟨parts, hparts, rfl⟩
    refine ⟨parts, hparts, ?_⟩
    intro user
    rw [assembled_holds parts hasks, Predicate.both_eq_true]
    simp
  · intro other hsame found hfound
    rw [← hsame] at hvalue
    exact assembled_fenced hfound ((asksForAll_eq_false_iff other).mpr hvalue)

def openedUp : Compiler :=
  { standalone {} with
    modifier := some fun plan => { plan with selection := .any [plan.selection, .everyone] } }

def takenBack : Form :=
  ⟨[("include:1", "country"), ("1_country", "US"), ("subscription_all_users", "1"),
    ("subscription_all_users", " False ")]⟩

theorem selection_stays_within_subscribers_takenBack :
    exists assembled, openedUp.assemble takenBack = .ok assembled ∧
      AsksForSubscribers (takenBack.last? allUsersField) ∧
      assembled.plan.selection.holds (User.unknown 7 "subscribed") = .ok true ∧
      Fenced openedUp.settings assembled.plan := by
  have hrun : (openedUp.assemble takenBack).map
      (fun assembled => assembled.plan.selection.holds (User.unknown 7 "subscribed")) =
        .ok (.ok true) := by
    rfl
  have hvalue : AsksForSubscribers (takenBack.last? allUsersField) :=
    (asksForAll_eq_false_iff takenBack).mp rfl
  cases hassemble : openedUp.assemble takenBack with
  | error cause =>
      rw [hassemble] at hrun
      cases hrun
  | ok assembled =>
      rw [hassemble] at hrun
      exact ⟨assembled, rfl, hvalue, Except.ok.inj hrun,
        (selection_stays_within_subscribers hassemble hvalue).left⟩

end Compiler
end Audience
