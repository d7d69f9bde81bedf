import Mathlib.Data.List.Forall2
import Audience.Proofs.Stages

/-!
# Built filters

## Conditions of filters

Every filter is built from one condition that is neither a constant nor put together from
others, and that is turned round where the filter is turned round.  So no filter is idle by
itself, and a group narrows the result as soon as it has any filter at all.
-/

namespace Audience

namespace Predicate

def isLeaf : Predicate -> Bool
  | everyone | nobody | all _ | any _ | not _ => false
  | _ => true

theorem toggled_not_unfiltered {leaf : Predicate} (hleaf : leaf.isLeaf = true)
    (included : Bool) :
    (leaf.toggled included).isUnfiltered = false := by
  cases included <;> cases leaf <;> first | rfl | cases hleaf

theorem isUnfiltered_eq_true {p : Predicate} :
    p.isUnfiltered = true <-> p = .everyone := by
  cases p <;> simp [isUnfiltered]

private theorem isUnfiltered_and (p q : Predicate) :
    (p.and q).isUnfiltered = (p.isUnfiltered && q.isUnfiltered) := by
  unfold Predicate.and
  split
  · rfl
  · rw [show everyone.isUnfiltered = true from rfl, Bool.and_true]
  · rename_i hleft _
    cases p with
    | everyone =>
        exact absurd rfl hleft
    | _ =>
        rfl

theorem isUnfiltered_or {p q : Predicate} (hp : p.isUnfiltered = false)
    (hq : q.isUnfiltered = false) :
    (p.or q).isUnfiltered = false := by
  unfold Predicate.or
  split
  · exact hq
  · exact hp
  · rfl

theorem isUnfiltered_foldl_and (p : Predicate) (qs : List Predicate) :
    (qs.foldl Predicate.and p).isUnfiltered =
      (p.isUnfiltered && qs.all isUnfiltered) := by
  induction qs generalizing p with
  | nil =>
      simp
  | cons q qs ih =>
      rw [List.foldl_cons, ih, isUnfiltered_and, List.all_cons, Bool.and_assoc]

theorem foldl_and_eq_everyone (qs : List Predicate) :
    qs.foldl Predicate.and .everyone = .everyone <-> forall q, q ∈ qs -> q = .everyone := by
  have hstart : Predicate.everyone.isUnfiltered = true := rfl
  rw [← isUnfiltered_eq_true, isUnfiltered_foldl_and, hstart, Bool.true_and, List.all_eq_true]
  simp only [isUnfiltered_eq_true]

theorem isUnfiltered_foldl_or {p : Predicate} {qs : List Predicate}
    (hp : p.isUnfiltered = false) (hqs : forall q, q ∈ qs -> q.isUnfiltered = false) :
    (qs.foldl Predicate.or p).isUnfiltered = false := by
  induction qs generalizing p with
  | nil =>
      exact hp
  | cons q qs ih =>
      rw [List.forall_mem_cons] at hqs
      exact ih (isUnfiltered_or hp hqs.left) hqs.right

end Predicate

namespace BuiltItem

@[simp] theorem toggled_predicate (p : Predicate) (phrase : String) (included : Bool) :
    (toggled p phrase included).predicate = p.toggled included := by
  cases included <;> rfl

/-- The predicate of a filter is one condition, perhaps turned round. -/
def IsToggledLeaf (built : BuiltItem) (item : FilterItem) : Prop :=
  exists leaf : Predicate,
    leaf.isLeaf = true ∧ built.predicate = leaf.toggled item.included

inductive Makes : Builder -> Predicate -> Prop where
  | columnIn (column : Column) (values : List String) :
      Makes .membership (.columnIn column values)
  | related (relation : Relation) (values : List String) :
      Makes .membership (.related relation (some values))
  | createdBefore (time : Time.Timestamp) : Makes .createdBefore (.created .lte time)
  | createdAfter (time : Time.Timestamp) : Makes .createdAfter (.created .gte time)
  | zip (postalCode : String) : Makes .postalRadius (.columnIs .zip postalCode)
  | within {box : Geo.Box} (h : box.isDegenerate = false) : Makes .postalRadius (.within box)
  | contactedSince (ids : List Int) : Makes .contactedSince (.idIn ids)
  | contactedBy (ids : List Int) : Makes .contactedBy (.idIn ids)
  | emailsOpened (since : Option Time.Timestamp) (n : Int) :
      Makes .emailsOpened (.figure .distinctOpens since .gte (.count n))
  | moreActions (since : Option Time.Timestamp) (n : Int) :
      Makes .moreActions (.figure .distinctActions since .gt (.count n))
  | donatedMore (since : Option Time.Timestamp) (amount : Decimal) :
      Makes .donatedMore (.figure .completedTotal since .gte (.amount amount))
  | donatedTimes (since : Option Time.Timestamp) (n : Int) :
      Makes .donatedTimes (.figure .completedCount since .gte (.count n))

theorem Makes.isLeaf {builder : Builder} {leaf : Predicate} (h : Makes builder leaf) :
    leaf.isLeaf = true := by
  cases h <;> rfl

def MadeBy (builder : Builder) (built : BuiltItem) (item : FilterItem) : Prop :=
  exists leaf : Predicate, Makes builder leaf ∧ built.predicate = leaf.toggled item.included

theorem MadeBy.isToggledLeaf {builder : Builder} {built : BuiltItem} {item : FilterItem}
    (h : MadeBy builder built item) : IsToggledLeaf built item := by
  rcases h with ⟨leaf, hmakes, hpredicate⟩
  exact ⟨leaf, hmakes.isLeaf, hpredicate⟩

theorem madeBy_toggled {builder : Builder} {leaf : Predicate} (h : Makes builder leaf)
    (phrase : String) (item : FilterItem) :
    MadeBy builder (toggled leaf phrase item.included) item :=
  ⟨leaf, h, toggled_predicate leaf phrase item.included⟩

theorem membership_made {spec : FilterSpec} {item : FilterItem} {built : BuiltItem}
    (h : membership spec item = .ok built) :
    MadeBy .membership built item := by
  unfold membership at h
  rcases bind_eq_ok.mp h with ⟨_, _, h⟩
  rcases hfield : spec.field with _ | column | relation
  · rw [hfield] at h
    cases h
  · rw [hfield] at h
    cases h
    exact ⟨_, .columnIn column item.values, rfl⟩
  · rw [hfield] at h
    cases h
    exact ⟨_, .related relation item.values, rfl⟩

theorem createdDate_made {builder : Builder} {comparison : Comparison} {words : String}
    {item : FilterItem} {built : BuiltItem}
    (hmakes : forall time, Makes builder (.created comparison time))
    (h : createdDate comparison words item = .ok built) :
    MadeBy builder built item := by
  unfold createdDate at h
  rcases bind_eq_ok.mp h with ⟨_, _, h⟩
  rcases bind_eq_ok.mp h with ⟨time, _, h⟩
  cases h
  exact madeBy_toggled (hmakes time) _ item

private theorem radiusBox_usable {geocoder : Geo.Geocoder} {postalCode distance : String}
    {box : Geo.Box} (h : radiusBox geocoder postalCode distance = .ok box) :
    box.isDegenerate = false := by
  unfold radiusBox at h
  rcases bind_eq_ok.mp h with ⟨_, _, h⟩
  rcases bind_eq_ok.mp h with ⟨_, _, h⟩
  dsimp only at h
  split at h
  case isTrue =>
    cases h
  case isFalse husable =>
    cases h
    exact Bool.eq_false_iff.mpr husable

theorem postalRadius_made {geocoder : Geo.Geocoder} {item : FilterItem}
    {built : BuiltItem} (h : postalRadius geocoder item = .ok built) :
    MadeBy .postalRadius built item := by
  unfold postalRadius at h
  rcases bind_eq_ok.mp h with ⟨_, _, h⟩
  dsimp only at h
  split at h
  · cases h
    exact madeBy_toggled (.zip _) _ item
  · rcases bind_eq_ok.mp h with ⟨_, hbox, h⟩
    cases h
    exact madeBy_toggled (.within (radiusBox_usable hbox)) _ item

private theorem contacted_eq_ok {log : ContactLog} {criteria : ContactCriteria} {p : Predicate}
    (h : contacted log criteria = .ok p) :
    exists ids, log.userIds criteria = .ok ids ∧ p = .idIn ids := by
  unfold contacted at h
  split at h
  case h_1 ids hids =>
    cases h
    exact ⟨ids, hids, rfl⟩
  case h_2 =>
    cases h

private theorem contacted_made {builder : Builder} {log : ContactLog} {criteria : ContactCriteria}
    {p : Predicate} {phrase : String} {item : FilterItem}
    (hmakes : forall ids, Makes builder (.idIn ids)) (h : contacted log criteria = .ok p) :
    MadeBy builder (toggled p phrase item.included) item := by
  rcases contacted_eq_ok h with ⟨ids, _, rfl⟩
  exact madeBy_toggled (hmakes ids) phrase item

private theorem madeBy_steps {builder : Builder} {item : FilterItem} {built : BuiltItem}
    {first : Except ε α} {second : α -> Except ε β} {third : α -> β -> Except ε γ}
    {make : α -> β -> γ -> BuiltItem}
    (h : (first >>= fun a => second a >>= fun b => third a b >>= fun c => pure (make a b c)) =
      .ok built)
    (hmake : forall a b c, third a b = .ok c -> MadeBy builder (make a b c) item) :
    MadeBy builder built item := by
  rcases bind_eq_ok.mp h with ⟨a, _, h⟩
  rcases bind_eq_ok.mp h with ⟨b, _, h⟩
  rcases bind_eq_ok.mp h with ⟨c, hthird, h⟩
  cases h
  exact hmake a b c hthird

theorem ofItem_made {sources : Sources} {spec : FilterSpec} {item : FilterItem}
    {built : BuiltItem} (h : ofItem sources spec item = .ok built) :
    MadeBy spec.builder built item := by
  unfold ofItem at h
  cases hbuilder : spec.builder with
  | membership =>
      rw [hbuilder] at h
      exact membership_made (mapError_eq_ok.mp h)
  | createdBefore =>
      rw [hbuilder] at h
      exact createdDate_made .createdBefore (mapError_eq_ok.mp h)
  | createdAfter =>
      rw [hbuilder] at h
      exact createdDate_made .createdAfter (mapError_eq_ok.mp h)
  | postalRadius =>
      rw [hbuilder] at h
      exact postalRadius_made h
  | contactedSince =>
      rw [hbuilder] at h
      exact madeBy_steps h fun _ _ _ hlog => contacted_made .contactedSince hlog
  | contactedBy =>
      rw [hbuilder] at h
      exact madeBy_steps h fun _ _ _ hlog => contacted_made .contactedBy hlog
  | emailsOpened =>
      rw [hbuilder] at h
      exact madeBy_steps (mapError_eq_ok.mp h) fun _ n since _ =>
        madeBy_toggled (.emailsOpened since n) _ item
  | moreActions =>
      rw [hbuilder] at h
      exact madeBy_steps (mapError_eq_ok.mp h) fun _ n since _ =>
        madeBy_toggled (.moreActions since n) _ item
  | donatedMore =>
      rw [hbuilder] at h
      exact madeBy_steps (mapError_eq_ok.mp h) fun _ amount since _ =>
        ⟨_, .donatedMore since amount, rfl⟩
  | donatedTimes =>
      rw [hbuilder] at h
      exact madeBy_steps (mapError_eq_ok.mp h) fun _ n since _ => ⟨_, .donatedTimes since n, rfl⟩

/-!
## Groups

Building keeps filters and groups in their places.
-/

def BuiltFrom (sources : Sources) (catalog : Catalog) (item : FilterItem)
    (built : BuiltItem) : Prop :=
  exists spec, catalog.get? item.name = some spec ∧ ofItem sources spec item = .ok built

theorem ofItems_eq_ok {sources : Sources} {catalog : Catalog} {items : List FilterItem}
    {built : List BuiltItem} (h : ofItems sources catalog items = .ok built) :
    List.Forall₂ (BuiltFrom sources catalog) items built := by
  induction items generalizing built with
  | nil =>
      cases h
      exact List.Forall₂.nil
  | cons item items ih =>
      unfold ofItems at h
      cases hspec : catalog.get? item.name with
      | none =>
          rw [hspec] at h
          cases h
      | some spec =>
          rw [hspec] at h
          rcases bind_eq_ok.mp h with ⟨first, hfirst, h⟩
          rcases bind_eq_ok.mp h with ⟨rest, hrest, h⟩
          cases h
          exact List.Forall₂.cons ⟨spec, hspec, hfirst⟩ (ih hrest)

theorem ofGroups_eq_ok {sources : Sources} {catalog : Catalog} {groups : List FilterGroup}
    {built : List (List BuiltItem)} (h : ofGroups sources catalog groups = .ok built) :
    List.Forall₂ (fun group items =>
      List.Forall₂ (BuiltFrom sources catalog) group.items items) groups built := by
  induction groups generalizing built with
  | nil =>
      cases h
      exact List.Forall₂.nil
  | cons group groups ih =>
      unfold ofGroups at h
      rcases bind_eq_ok.mp h with ⟨first, hfirst, h⟩
      rcases bind_eq_ok.mp h with ⟨rest, hrest, h⟩
      cases h
      exact List.Forall₂.cons (ofItems_eq_ok hfirst) (ih hrest)

/-!
## Idle groups
-/

theorem conjunction_eq_foldl (items : List BuiltItem) :
    conjunction items = (items.map (·.predicate)).foldl Predicate.and .everyone := by
  rw [conjunction, List.foldl_map]

theorem isIdle_iff {sources : Sources} {catalog : Catalog} {items : List FilterItem}
    {built : List BuiltItem}
    (h : List.Forall₂ (BuiltFrom sources catalog) items built) :
    isIdle built = true <-> items = [] := by
  cases h with
  | nil =>
      exact iff_of_true rfl rfl
  | cons hfirst hrest =>
      rename_i item first items rest
      rcases hfirst with ⟨spec, _, hbuilt⟩
      rcases (ofItem_made hbuilt).isToggledLeaf with ⟨leaf, hleaf, hpredicate⟩
      have hnarrow : first.predicate.isUnfiltered = false := by
        rw [hpredicate]
        exact Predicate.toggled_not_unfiltered hleaf item.included
      have hidle : isIdle (first :: rest) = false := by
        rw [isIdle, conjunction_eq_foldl, Predicate.isUnfiltered_foldl_and, List.map_cons,
          List.all_cons, hnarrow, Bool.false_and, Bool.and_false]
        rfl
      rw [hidle]
      simp

end BuiltItem
end Audience
