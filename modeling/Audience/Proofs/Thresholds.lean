import Audience.Proofs.Calendar
import Audience.Proofs.Evaluation
import Audience.Proofs.ExactSums
import Audience.Proofs.AscendingNumbers
import Audience.Proofs.Items
import Audience.Proofs.Usable

/-!
# Thresholds

## What is counted

Emails, actions and donations are counted by their ids, so what is recorded twice counts once.
Donations are the completed orders.  A date bounds all of them from below, and counts itself.
-/

namespace Audience

open Time

def IsSince (since : Option Timestamp) (time : Timestamp) : Prop :=
  forall bound, since = some bound -> bound.NotAfter time

theorem notBefore_iff {since : Option Timestamp} {time : Timestamp} :
    notBefore since time = true <-> IsSince since time := by
  cases since with
  | none =>
      exact iff_of_true rfl fun _ h => nomatch h
  | some bound =>
      rw [notBefore, Timestamp.le_iff]
      constructor
      · intro h other hother
        cases hother
        exact h
      · intro h
        exact h bound rfl

def Order.IsDonation (order : Order) (since : Option Timestamp) : Prop :=
  order.status = completedStatus ∧ IsSince since order.createdAt

namespace User

def opened (user : User) (since : Option Timestamp) : Set Int :=
  {id | exists opening, opening ∈ user.openings ∧ IsSince since opening.createdAt ∧
    opening.id = id}

def acted (user : User) (since : Option Timestamp) : Set Int :=
  {id | exists action, action ∈ user.actions ∧ IsSince since action.createdAt ∧ action.id = id}

def donated (user : User) (since : Option Timestamp) : Set Int :=
  {id | exists order, order ∈ user.orders ∧ order.IsDonation since ∧ order.id = id}

/-- The amounts of the donations, each as often as it is recorded. -/
def donations (user : User) (since : Option Timestamp) : List Decimal :=
  (user.completedOrders.filter fun order => notBefore since order.createdAt).map (·.total)

theorem mem_donations {user : User} {since : Option Timestamp} {d : Decimal} :
    d ∈ user.donations since <->
      exists order, order ∈ user.orders ∧ order.IsDonation since ∧ order.total = d := by
  simp [donations, completedOrders, Order.IsDonation, notBefore_iff, and_assoc, and_left_comm]

/-!
## Figures
-/

theorem distinctCount_eq {ids : List Int} {counted : Set Int}
    (h : forall id, id ∈ ids <-> id ∈ counted) :
    distinctCount ids = .ofInt counted.ncard := by
  have hset : {id : Int | id ∈ ids} = counted := Set.ext h
  rw [distinctCount, ← Number.ncard_eq_length_ascending, hset]

variable (user : User) (since : Option Timestamp)

theorem figure_distinctOpens :
    user.figure .distinctOpens since = .ok (.ofInt (user.opened since).ncard) := by
  apply congrArg Except.ok (distinctCount_eq _)
  intro id
  simp [opened, notBefore_iff, and_assoc]

theorem figure_distinctActions :
    user.figure .distinctActions since = .ok (.ofInt (user.acted since).ncard) := by
  apply congrArg Except.ok (distinctCount_eq _)
  intro id
  simp [acted, notBefore_iff, and_assoc]

theorem figure_completedCount :
    user.figure .completedCount since = .ok (.ofInt (user.donated since).ncard) := by
  apply congrArg Except.ok (distinctCount_eq _)
  intro id
  simp [donated, completedOrders, Order.IsDonation, notBefore_iff, and_assoc, and_left_comm]

theorem figure_completedTotal {total : Decimal}
    (h : Decimal.sum? (user.donations since) = some total) :
    user.figure .completedTotal since = .ok total.quantity := by
  unfold figure
  dsimp only
  rw [donations] at h
  rw [h]

end User

theorem Comparison.atLeast_iff (count n : Int) :
    gte.ofQuantities (.ofInt count) (.ofInt n) = true <-> n <= count := by
  simp [ofQuantities, Quantity.le_iff]

theorem Comparison.moreThan_iff (count n : Int) :
    gt.ofQuantities (.ofInt count) (.ofInt n) = true <-> n < count := by
  simp [ofQuantities, Quantity.lt_iff]

theorem Predicate.decides_figure {user : User} {kind : Figure} {since : Option Timestamp}
    {value : Quantity} (h : user.figure kind since = .ok value) (comparison : Comparison)
    (bound : Bound) :
    Decides ((figure kind since comparison bound).holds user)
      (comparison.ofQuantities value bound.quantity = true) := by
  refine ⟨comparison.ofQuantities value bound.quantity, ?_, Iff.rfl⟩
  rw [holds, h]
  rfl

/-!
## Filters
-/

namespace BuiltItem

variable {sources : Sources} {spec : FilterSpec} {item : FilterItem} {raw : String}
  {since : Option Timestamp}

private theorem counted_eq_ok {n : Int} (hraw : item.values.head? = some raw)
    (hsince : item.DatedBy sinceCompanion since) (hn : Entry.count item.name raw = .ok n)
    (make : Int -> Option Timestamp -> BuiltItem) :
    (firstValue item >>= fun raw => Entry.count item.name raw >>= fun n =>
      companionDate item sinceCompanion >>= fun since => pure (make n since)) =
        .ok (make n since) :=
  bind_eq_ok.mpr ⟨raw, firstValue_eq_ok.mpr hraw,
    bind_eq_ok.mpr ⟨n, hn,
      bind_eq_ok.mpr ⟨since, companionDate_eq_ok.mpr hsince, rfl⟩⟩⟩

def counting? : Builder -> Option (Figure × Comparison)
  | .emailsOpened => some (.distinctOpens, .gte)
  | .moreActions => some (.distinctActions, .gt)
  | .donatedTimes => some (.completedCount, .gte)
  | _ => none

private theorem ofItem_counting {kind : Figure} {comparison : Comparison} {n : Int}
    (hspec : counting? spec.builder = some (kind, comparison))
    (hraw : item.values.head? = some raw) (hsince : item.DatedBy sinceCompanion since)
    (hn : Entry.count item.name raw = .ok n) :
    exists built, ofItem sources spec item = .ok built ∧ built.predicate =
      (Predicate.figure kind since comparison (.count n)).toggled item.included := by
  have hcounted := counted_eq_ok hraw hsince hn
  unfold ofItem
  unfold counting? at hspec
  split at hspec
  case h_1 h =>
    cases hspec
    rw [h]
    exact ⟨_, mapError_eq_ok.mpr (hcounted _), toggled_predicate _ _ _⟩
  case h_2 h =>
    cases hspec
    rw [h]
    exact ⟨_, mapError_eq_ok.mpr (hcounted _), toggled_predicate _ _ _⟩
  case h_3 h =>
    cases hspec
    rw [h]
    exact ⟨_, mapError_eq_ok.mpr (hcounted _), rfl⟩
  case h_4 =>
    cases hspec

theorem decides_counting {kind : Figure} {comparison : Comparison} {n : Int}
    {counted : User -> Nat} (hspec : counting? spec.builder = some (kind, comparison))
    (hincluded : item.included = true) (hraw : item.values.head? = some raw)
    (hsince : item.DatedBy sinceCompanion since) (hn : Entry.count item.name raw = .ok n)
    (hcounted : forall user : User, user.figure kind since = .ok (.ofInt (counted user))) :
    exists built, ofItem sources spec item = .ok built ∧ forall user : User,
      Predicate.Decides (built.predicate.holds user)
        (comparison.ofQuantities (.ofInt (counted user)) (.ofInt n) = true) := by
  rcases ofItem_counting hspec hraw hsince hn with ⟨built, hbuilt, hpredicate⟩
  refine ⟨built, hbuilt, ?_⟩
  intro user
  rw [hpredicate, hincluded]
  exact Predicate.decides_figure (hcounted user) comparison (.count n)

private theorem ofItem_donatedMore {amount : Decimal} (hspec : spec.builder = .donatedMore)
    (hraw : item.values.head? = some raw) (hsince : item.DatedBy sinceCompanion since)
    (hamount : Entry.amount item.name raw = .ok amount) :
    exists built, ofItem sources spec item = .ok built ∧ built.predicate =
      (Predicate.figure .completedTotal since .gte (.amount amount)).toggled item.included := by
  have htrimmed : Entry.amount item.name (Text.trimmed raw) = .ok amount := by
    rw [Entry.amount_eq_ok, Text.trim_trimmed]
    exact Entry.amount_eq_ok.mp hamount
  have hbuilt : donatedMore item = .ok _ :=
    bind_eq_ok.mpr ⟨raw, firstValue_eq_ok.mpr hraw,
      bind_eq_ok.mpr ⟨amount, htrimmed,
        bind_eq_ok.mpr ⟨since, companionDate_eq_ok.mpr hsince, rfl⟩⟩⟩
  rw [ofItem, hspec]
  exact ⟨_, mapError_eq_ok.mpr hbuilt, rfl⟩

/-- The threshold filters on an item compare what is counted of a user with the first value. -/
structure CountsRight (sources : Sources) (item : FilterItem) (raw : String)
    (since : Option Timestamp) : Prop where
  opened : forall spec n, spec.builder = .emailsOpened -> Entry.count item.name raw = .ok n ->
    exists built, ofItem sources spec item = .ok built ∧ forall user : User,
      Predicate.Decides (built.predicate.holds user) (n <= (user.opened since).ncard)
  acted : forall spec n, spec.builder = .moreActions -> Entry.count item.name raw = .ok n ->
    exists built, ofItem sources spec item = .ok built ∧ forall user : User,
      Predicate.Decides (built.predicate.holds user) (n < (user.acted since).ncard)
  donated : forall spec n, spec.builder = .donatedTimes -> Entry.count item.name raw = .ok n ->
    exists built, ofItem sources spec item = .ok built ∧ forall user : User,
      Predicate.Decides (built.predicate.holds user) (n <= (user.donated since).ncard)
  total : forall spec amount, spec.builder = .donatedMore ->
    Entry.amount item.name raw = .ok amount ->
    exists built, ofItem sources spec item = .ok built ∧ forall (user : User) total,
      Decimal.sum? (user.donations since) = some total ->
        Predicate.Decides (built.predicate.holds user)
          (amount.quantity.value <= total.quantity.value)
  /-- The total is the sum of the numbers wherever there is room for it. -/
  exactly : forall user : User, Decimal.FitTogether (user.donations since) ->
    ExactSum (user.donations since)

theorem thresholds_count_right (sources : Sources) (item : FilterItem) (raw : String)
    (since : Option Timestamp) (hincluded : item.included = true)
    (hraw : item.values.head? = some raw) (hsince : item.DatedBy sinceCompanion since) :
    CountsRight sources item raw since where
  opened := by
    intro spec n hspec hn
    have hcounting : counting? spec.builder = some (.distinctOpens, .gte) := by
      rw [hspec, counting?]
    rcases decides_counting hcounting hincluded hraw hsince hn
      fun user => user.figure_distinctOpens since with ⟨built, hbuilt, hdecides⟩
    exact ⟨built, hbuilt, fun user =>
      Predicate.decides_congr (hdecides user) (Comparison.atLeast_iff _ _)⟩
  acted := by
    intro spec n hspec hn
    have hcounting : counting? spec.builder = some (.distinctActions, .gt) := by
      rw [hspec, counting?]
    rcases decides_counting hcounting hincluded hraw hsince hn
      fun user => user.figure_distinctActions since with ⟨built, hbuilt, hdecides⟩
    exact ⟨built, hbuilt, fun user =>
      Predicate.decides_congr (hdecides user) (Comparison.moreThan_iff _ _)⟩
  donated := by
    intro spec n hspec hn
    have hcounting : counting? spec.builder = some (.completedCount, .gte) := by
      rw [hspec, counting?]
    rcases decides_counting hcounting hincluded hraw hsince hn
      fun user => user.figure_completedCount since with ⟨built, hbuilt, hdecides⟩
    exact ⟨built, hbuilt, fun user =>
      Predicate.decides_congr (hdecides user) (Comparison.atLeast_iff _ _)⟩
  total := by
    intro spec amount hspec hamount
    rcases ofItem_donatedMore hspec hraw hsince hamount with ⟨built, hbuilt, hpredicate⟩
    refine ⟨built, hbuilt, ?_⟩
    intro user total htotal
    rw [hpredicate, hincluded]
    apply Predicate.decides_congr
      (Predicate.decides_figure (user.figure_completedTotal since htotal) _ _)
    rw [Comparison.ofQuantities, Quantity.le_iff, Bound.quantity]
  exactly := fun _ hroom => Decimal.exactSum_of_fitTogether hroom

def twoSinceJune : FilterItem :=
  ⟨"twice", ["2"], true, [(sinceCompanion, "2020-06-01")]⟩

def june : Timestamp :=
  .midnight ⟨2020, 6, 1, by decide⟩

def may : Timestamp :=
  ⟨⟨2020, 5, 31, by decide⟩, 86399, 0, by decide⟩

/-- One email is recorded twice, and one was opened too early.  The two donations have one id, and
their amounts, with different decimals, make two together. -/
def donorInJune : User :=
  { User.unknown 1 "subscribed" with
    actions := [⟨1, 1, [], june⟩, ⟨2, 1, [], june⟩, ⟨2, 1, [], june⟩]
    openings := [⟨7, june⟩, ⟨7, june⟩, ⟨8, june⟩, ⟨9, may⟩]
    orders :=
      [ ⟨1, ⟨1500, 3, by decide, by decide⟩, completedStatus, june⟩,
        ⟨1, ⟨5000, 4, by decide, by decide⟩, completedStatus, june⟩,
        ⟨2, ⟨900000, 5, by decide, by decide⟩, "incomplete", june⟩ ] }

def noSources : Sources :=
  ⟨.provider (.table []), .ofRecords []⟩

theorem thresholds_count_right_donorInJune :
    exists opened acted donated total,
      twoSinceJune.DatedBy sinceCompanion (some june) ∧
      ofItem noSources (Catalog.ofBuilder "twice" .emailsOpened []) twoSinceJune = .ok opened ∧
      opened.predicate.holds donorInJune = .ok true ∧
      ofItem noSources (Catalog.ofBuilder "twice" .moreActions []) twoSinceJune = .ok acted ∧
      acted.predicate.holds donorInJune = .ok false ∧
      ofItem noSources (Catalog.ofBuilder "twice" .donatedTimes []) twoSinceJune = .ok donated ∧
      donated.predicate.holds donorInJune = .ok false ∧
      ofItem noSources (Catalog.ofBuilder "twice" .donatedMore []) twoSinceJune = .ok total ∧
      total.predicate.holds donorInJune = .ok true := by
  have hdated : twoSinceJune.DatedBy sinceCompanion (some june) := ⟨"2020-06-01", rfl, rfl⟩
  have hright := thresholds_count_right noSources twoSinceJune "2" (some june) rfl rfl hdated
  have hcount : Entry.count twoSinceJune.name "2" = .ok 2 := rfl
  have hamount : Entry.amount twoSinceJune.name "2" = .ok ⟨2, 0, by decide, by decide⟩ := rfl
  have hopens : donorInJune.figure .distinctOpens (some june) = .ok (.ofInt 2) := rfl
  have hacts : donorInJune.figure .distinctActions (some june) = .ok (.ofInt 2) := rfl
  have hdonations : donorInJune.figure .completedCount (some june) = .ok (.ofInt 1) := rfl
  have hsum : Decimal.sum? (donorInJune.donations (some june)) =
      some ⟨20000, 4, by decide, by decide⟩ := rfl
  simp only [User.figure_distinctOpens, User.figure_distinctActions, User.figure_completedCount,
    Except.ok.injEq, Quantity.ofInt, Quantity.mk.injEq, and_true] at hopens hacts hdonations
  rcases hright.opened (Catalog.ofBuilder "twice" .emailsOpened []) 2 rfl hcount with
    ⟨opened, hopened, hopenedUser⟩
  rcases hright.acted (Catalog.ofBuilder "twice" .moreActions []) 2 rfl hcount with
    ⟨acted, hacted, hactedUser⟩
  rcases hright.donated (Catalog.ofBuilder "twice" .donatedTimes []) 2 rfl hcount with
    ⟨donated, hdonated, hdonatedUser⟩
  rcases hright.total (Catalog.ofBuilder "twice" .donatedMore []) _ rfl hamount with
    ⟨total, htotal, htotalUser⟩
  refine ⟨opened, acted, donated, total, hdated, hopened, ?_, hacted, ?_, hdonated, ?_, htotal, ?_⟩
  · exact (hopenedUser donorInJune).eq_true hopens.ge
  · exact (hactedUser donorInJune).eq_false hacts.not_gt
  · exact (hdonatedUser donorInJune).eq_false (by rw [hdonations]; decide)
  · apply (htotalUser donorInJune _ hsum).eq_true
    norm_num [Decimal.quantity, Quantity.value]

end BuiltItem
end Audience
