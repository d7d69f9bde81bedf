import Audience.Proofs.Evaluation
import Audience.Proofs.Stages

/-!
# Filters turned round

## Outcomes that agree

A filter and the same filter turned round run through the same steps.  A step fails for both
of them or for neither, and with the same error, so their outcomes are compared step by step.
-/

namespace Audience

/-- Both outcomes are the same error, or both are values that are related. -/
inductive Agree (related : α -> β -> Prop) : Except ε α -> Except ε β -> Prop where
  | error (cause : ε) : Agree related (.error cause) (.error cause)
  | ok {value : α} {other : β} (h : related value other) : Agree related (.ok value) (.ok other)

namespace Agree

theorem bind {first : Except ε α} {other : Except ε β} {next : α -> Except ε γ}
    {follow : β -> Except ε δ} {related : α -> β -> Prop} {result : γ -> δ -> Prop}
    (hfirst : Agree related first other)
    (hnext : forall value found, related value found ->
      Agree result (next value) (follow found)) :
    Agree result (first >>= next) (other >>= follow) := by
  cases hfirst with
  | error cause =>
      exact Agree.error cause
  | ok h =>
      exact hnext _ _ h

theorem step {first : Except ε α} {next : α -> Except ε γ} {follow : α -> Except ε δ}
    {result : γ -> δ -> Prop} (hnext : forall value, Agree result (next value) (follow value)) :
    Agree result (first >>= next) (first >>= follow) := by
  cases first with
  | error cause =>
      exact Agree.error cause
  | ok value =>
      exact hnext value

theorem steps {first : Except ε α} {second : α -> Except ε β} {third : α -> β -> Except ε γ}
    {make : α -> β -> γ -> δ} {other : α -> β -> γ -> ζ} {result : δ -> ζ -> Prop}
    (h : forall a b c, result (make a b c) (other a b c)) :
    Agree result
      (first >>= fun a => second a >>= fun b => third a b >>= fun c => pure (make a b c))
      (first >>= fun a => second a >>= fun b => third a b >>= fun c => pure (other a b c)) := by
  apply step
  intro a
  apply step
  intro b
  apply step
  intro c
  exact ok (h a b c)

theorem follow {first : Except ε α} {other : Except ε β} {next : β -> Except ε γ}
    {related : α -> β -> Prop} {result : α -> γ -> Prop} (hother : Agree related first other)
    (hnext : forall value found, related value found ->
      Agree result (.ok value) (next found)) :
    Agree result first (other >>= next) := by
  cases hother with
  | error cause =>
      exact Agree.error cause
  | ok h =>
      exact hnext _ _ h

theorem imp {first : Except ε α} {other : Except ε β} {related result : α -> β -> Prop}
    (h : Agree related first other)
    (himp : forall value found, related value found -> result value found) :
    Agree result first other := by
  cases h with
  | error cause =>
      exact Agree.error cause
  | ok h =>
      exact Agree.ok (himp _ _ h)

theorem mapError {outcome : Except ε α} {other : Except ε β} {related : α -> β -> Prop}
    (h : Agree related outcome other) (wrap : ε -> δ) :
    Agree related (outcome.mapError wrap) (other.mapError wrap) := by
  cases h with
  | error cause =>
      exact Agree.error (wrap cause)
  | ok h =>
      exact Agree.ok h

theorem across {first : Except ε α} {second : Except ε β} {third : Except ε γ}
    {fourth : Except ε δ} {left : α -> γ -> Prop} {across : α -> β -> Prop}
    {right : β -> δ -> Prop} {result : γ -> δ -> Prop}
    (hleft : Agree left first third) (hacross : Agree across first second)
    (hright : Agree right second fourth)
    (hresult : forall {a b c d}, left a c -> across a b -> right b d -> result c d) :
    Agree result third fourth := by
  cases hacross with
  | error cause =>
      cases hleft
      cases hright
      exact Agree.error cause
  | ok h =>
      cases hleft with
      | ok hthird =>
          cases hright with
          | ok hfourth =>
              exact Agree.ok (hresult hthird h hfourth)

end Agree

def FilterItem.turned (item : FilterItem) (included : Bool) : FilterItem :=
  { item with included }

@[simp] theorem FilterItem.name_turned (item : FilterItem) (included : Bool) :
    (item.turned included).name = item.name := rfl

@[simp] theorem FilterItem.companion?_turned (item : FilterItem) (included : Bool) (name : String) :
    (item.turned included).companion? name = item.companion? name := rfl

namespace BuiltItem

/-- The second filter asks for exactly the opposite of the first. -/
def Opposite (built other : BuiltItem) : Prop :=
  other.predicate = built.predicate.negate

/-!
## Builders

Each builder turns its condition round in the last step, in one of three ways.  The filters
on contacts and those on figures take three steps before it: they read a value, then a
companion, and the former ask the log.
-/

theorem membership_turned (spec : FilterSpec) (item : FilterItem) :
    Agree Opposite (membership spec (item.turned true))
      (membership spec (item.turned false)) := by
  unfold membership
  apply Agree.step
  intro _
  cases spec.field with
  | none =>
      exact Agree.error _
  | some path =>
      cases path with
      | column column =>
          exact Agree.ok rfl
      | related relation =>
          exact Agree.ok rfl

private theorem createdDate_turned (comparison : Comparison) (words : String) (item : FilterItem) :
    Agree Opposite (createdDate comparison words (item.turned true))
      (createdDate comparison words (item.turned false)) := by
  unfold createdDate
  apply Agree.step
  intro raw
  apply Agree.step
  intro time
  exact Agree.ok rfl

private theorem postalRadius_turned (geocoder : Geo.Geocoder) (item : FilterItem) :
    Agree Opposite (postalRadius geocoder (item.turned true))
      (postalRadius geocoder (item.turned false)) := by
  unfold postalRadius
  apply Agree.step
  intro raw
  simp only [FilterItem.companion?_turned]
  cases item.companion? distanceCompanion with
  | none =>
      exact Agree.ok rfl
  | some rawDistance =>
      apply Agree.step
      intro box
      exact Agree.ok rfl

theorem ofItem_turned (sources : Sources) (spec : FilterSpec) (item : FilterItem) :
    Agree Opposite (ofItem sources spec (item.turned true))
      (ofItem sources spec (item.turned false)) := by
  unfold ofItem
  cases spec.builder with
  | membership =>
      exact (membership_turned spec item).mapError _
  | createdBefore =>
      exact (createdDate_turned .lte _ item).mapError _
  | createdAfter =>
      exact (createdDate_turned .gte _ item).mapError _
  | postalRadius =>
      exact postalRadius_turned sources.geocoder item
  | contactedSince | contactedBy =>
      exact Agree.steps fun raw since p => rfl
  | emailsOpened | moreActions | donatedMore | donatedTimes =>
      apply Agree.mapError
      exact Agree.steps fun raw value since => rfl

end BuiltItem
end Audience
