import Audience.Proofs.NormalForms
import Audience.Proofs.Thresholds

/-!
# The order of rows

## Users with the same rows

The rows that belong to a user come in some order, and so do the tags of a page.  What is asked
of them is whether a row of some kind is there, and how many different ones there are.
-/

namespace Audience

open Time

/-- The same action, with the tags of its page in any order. -/
structure Action.SameTags (a b : Action) : Prop where
  id : a.id = b.id
  pageId : a.pageId = b.pageId
  createdAt : a.createdAt = b.createdAt
  tags : a.pageTagIds.Perm b.pageTagIds

/-- The users differ in the order of their rows only. -/
structure User.SameRows (u v : User) : Prop where
  row : v =
    { u with
      phones := v.phones
      fields := v.fields
      actions := v.actions
      openings := v.openings
      orders := v.orders }
  phones : u.phones.Perm v.phones
  fields : u.fields.Perm v.fields
  actions : exists retagged,
    List.Forall₂ Action.SameTags u.actions retagged ∧ retagged.Perm v.actions
  openings : u.openings.Perm v.openings
  orders : u.orders.Perm v.orders

private theorem exists_mem_iff_of_sameTags {actions retagged : List Action} {said : Action -> Prop}
    (hsaid : forall a b, a.SameTags b -> (said a <-> said b))
    (h : List.Forall₂ Action.SameTags actions retagged) :
    (exists a, a ∈ actions ∧ said a) <-> exists a, a ∈ retagged ∧ said a := by
  induction h with
  | nil =>
      exact Iff.rfl
  | cons hab _ ih =>
      rw [List.exists_mem_cons_iff, List.exists_mem_cons_iff, hsaid _ _ hab, ih]

namespace User.SameRows

variable {u v : User}

theorem exists_action_iff (h : u.SameRows v) {said : Action -> Prop}
    (hsaid : forall a b, a.SameTags b -> (said a <-> said b)) :
    (exists a, a ∈ u.actions ∧ said a) <-> exists a, a ∈ v.actions ∧ said a := by
  rcases h.actions with ⟨retagged, hretagged, hperm⟩
  rw [exists_mem_iff_of_sameTags hsaid hretagged]
  simp only [hperm.mem_iff]

theorem column_eq (h : u.SameRows v) (column : Column) : u.column column = v.column column := by
  rw [h.row]
  cases column <;> rfl

theorem mem_relatedValues_iff (h : u.SameRows v) (relation : Relation) (value : String) :
    value ∈ u.relatedValues relation <-> value ∈ v.relatedValues relation := by
  cases relation with
  | actionPage =>
      simp only [relatedValues, List.mem_map]
      exact h.exists_action_iff fun a b hab => by rw [hab.pageId]
  | actionPageTag =>
      simp only [relatedValues, List.mem_flatMap, List.mem_map]
      exact h.exists_action_iff fun a b hab => by simp only [hab.tags.mem_iff]
  | userField name =>
      simp only [relatedValues, List.mem_map, List.mem_filter, h.fields.mem_iff]
  | phone =>
      exact h.phones.mem_iff

theorem any_relatedValues_eq (h : u.SameRows v) (relation : Relation) (found : String -> Bool) :
    (u.relatedValues relation).any found = (v.relatedValues relation).any found := by
  rw [Bool.eq_iff_iff, List.any_eq_true, List.any_eq_true]
  simp only [h.mem_relatedValues_iff relation]

theorem opened_eq (h : u.SameRows v) (since : Option Timestamp) :
    u.opened since = v.opened since := by
  ext id
  simp only [opened, Set.mem_ofPred_eq, h.openings.mem_iff]

theorem acted_eq (h : u.SameRows v) (since : Option Timestamp) :
    u.acted since = v.acted since := by
  ext id
  exact h.exists_action_iff fun a b hab => by rw [hab.createdAt, hab.id]

theorem donated_eq (h : u.SameRows v) (since : Option Timestamp) :
    u.donated since = v.donated since := by
  ext id
  simp only [donated, Set.mem_ofPred_eq, h.orders.mem_iff]

theorem donations_perm (h : u.SameRows v) (since : Option Timestamp) :
    (u.donations since).Perm (v.donations since) := by
  have hcompleted : u.completedOrders.Perm v.completedOrders := h.orders.filter _
  exact (hcompleted.filter _).map _

end User.SameRows

/-!
## Totals

Only the total of donations is computed row by row.  A sum that has to be rounded, or that
exceeds the range of amounts on the way, may come out otherwise in another order.  As long as
all amounts have room together, it does not.
-/

namespace Decimal

/-- The two lists add up to the same number, or both to none. -/
def SameSum (ds es : List Decimal) : Prop :=
  (sum? ds).map (fun total => total.quantity.value) =
    (sum? es).map fun total => total.quantity.value

theorem sameSum_some_iff {ds es : List Decimal} {s t : Decimal} (hs : sum? ds = some s)
    (ht : sum? es = some t) : SameSum ds es <-> s.quantity.value = t.quantity.value := by
  rw [SameSum, hs, ht, Option.map_some, Option.map_some, Option.some_inj]

private theorem FitTogether.perm {ds es : List Decimal} (h : FitTogether ds) (hperm : ds.Perm es) :
    FitTogether es := by
  rcases h with ⟨scale, hscales, hroom⟩
  refine ⟨scale, fun d hd => hscales d (hperm.mem_iff.mpr hd), ?_⟩
  rw [← (hperm.map _).sum_eq]
  exact hroom

theorem FitTogether.sublist {ds es : List Decimal} (h : FitTogether ds) (hsub : es.Sublist ds) :
    FitTogether es := by
  rcases h with ⟨scale, hscales, hroom⟩
  refine ⟨scale, fun d hd => hscales d (hsub.subset hd), ?_⟩
  exact lt_of_le_of_lt ((hsub.map _).sum_le_sum fun _ _ => Nat.zero_le _) hroom

theorem FitTogether.sameSum {ds es : List Decimal} (h : FitTogether ds) (hperm : ds.Perm es) :
    SameSum ds es := by
  rcases exactSum_of_fitTogether h with ⟨s, hs, hsValue⟩
  rcases exactSum_of_fitTogether (h.perm hperm) with ⟨t, ht, htValue⟩
  rw [sameSum_some_iff hs ht, hsValue, htValue]
  exact (hperm.map _).sum_eq

end Decimal

theorem Comparison.ofQuantities_congr {p q : Quantity} (h : p.value = q.value)
    (comparison : Comparison) (bound : Quantity) :
    comparison.ofQuantities p bound = comparison.ofQuantities q bound := by
  rw [Bool.eq_iff_iff]
  cases comparison with
  | gt => rw [ofQuantities, ofQuantities, Quantity.lt_iff, Quantity.lt_iff, h]
  | gte => rw [ofQuantities, ofQuantities, Quantity.le_iff, Quantity.le_iff, h]
  | lte => rw [ofQuantities, ofQuantities, Quantity.le_iff, Quantity.le_iff, h]

theorem User.donations_sublist (user : User) (since : Option Timestamp) :
    (user.donations since).Sublist (user.donations none) := by
  have hall : user.donations none = user.completedOrders.map (·.total) := by
    simp [donations, notBefore]
  rw [hall]
  exact List.filter_sublist.map _

namespace Predicate

variable {u v : User}

/-!
## Outcomes
-/

/-- The predicate compares the total of donations since a time, at some place. -/
def AsksForTotal (p : Predicate) (since : Option Timestamp) : Prop :=
  exists comparison bound, StandsIn (figure .completedTotal since comparison bound) p

theorem AsksForTotal.inside {p operand : Predicate} {since : Option Timestamp}
    (hoperand : operand ∈ p.operands) (h : operand.AsksForTotal since) : p.AsksForTotal since := by
  rcases h with ⟨comparison, bound, h⟩
  exact ⟨comparison, bound, StandsIn.inside hoperand h⟩

theorem holds_figure_of_ok {user : User} {kind : Figure} {since : Option Timestamp}
    {value : Quantity} (h : user.figure kind since = .ok value) (comparison : Comparison)
    (bound : Bound) :
    (figure kind since comparison bound).holds user =
      .ok (comparison.ofQuantities value bound.quantity) := by
  rw [holds, h]
  rfl

theorem holds_total_of_none {user : User} {since : Option Timestamp}
    (h : Decimal.sum? (user.donations since) = none) (comparison : Comparison) (bound : Bound) :
    (figure .completedTotal since comparison bound).holds user = .error .total := by
  have hfigure : user.figure .completedTotal since = .error .total := by
    unfold User.figure
    dsimp only
    rw [User.donations] at h
    rw [h]
  rw [holds, hfigure]
  rfl

theorem holds_total_eq {since : Option Timestamp}
    (h : Decimal.SameSum (u.donations since) (v.donations since)) (comparison : Comparison)
    (bound : Bound) :
    (figure .completedTotal since comparison bound).holds u =
      (figure .completedTotal since comparison bound).holds v := by
  cases hu : Decimal.sum? (u.donations since) with
  | none =>
      have hv : Decimal.sum? (v.donations since) = none := by
        rw [Decimal.SameSum, hu] at h
        exact Option.map_eq_none_iff.mp h.symm
      rw [holds_total_of_none hu, holds_total_of_none hv]
  | some s =>
      cases hv : Decimal.sum? (v.donations since) with
      | none =>
          rw [Decimal.SameSum, hu, hv] at h
          cases h
      | some t =>
          rw [Decimal.sameSum_some_iff hu hv] at h
          rw [holds_figure_of_ok (u.figure_completedTotal since hu),
            holds_figure_of_ok (v.figure_completedTotal since hv),
            Comparison.ofQuantities_congr h]

theorem holds_atMost_iff {user : User} {since : Option Timestamp} {total : Decimal}
    (h : Decimal.sum? (user.donations since) = some total) (bound : Decimal) :
    (figure .completedTotal since .lte (.amount bound)).holds user = .ok true <->
      total.quantity.value <= bound.quantity.value := by
  rw [holds_figure_of_ok (user.figure_completedTotal since h), Except.ok.injEq,
    ← Quantity.le_iff]
  exact Iff.rfl

theorem exists_holds_total_ne {since : Option Timestamp}
    (h : ¬ Decimal.SameSum (u.donations since) (v.donations since)) :
    exists comparison bound,
      (figure .completedTotal since comparison bound).holds u ≠
        (figure .completedTotal since comparison bound).holds v := by
  cases hu : Decimal.sum? (u.donations since) with
  | none =>
      cases hv : Decimal.sum? (v.donations since) with
      | none =>
          exact absurd (by rw [Decimal.SameSum, hu, hv]) h
      | some t =>
          exists .lte, .count 0
          rw [holds_total_of_none hu, holds_figure_of_ok (v.figure_completedTotal since hv)]
          exact nofun
  | some s =>
      cases hv : Decimal.sum? (v.donations since) with
      | none =>
          exists .lte, .count 0
          rw [holds_total_of_none hv, holds_figure_of_ok (u.figure_completedTotal since hu)]
          exact nofun
      | some t =>
          rw [Decimal.sameSum_some_iff hu hv] at h
          -- The smaller of the two totals is a bound that only one user keeps to.
          rcases lt_or_gt_of_ne h with hless | hmore
          · exists .lte, .amount s
            intro heq
            have hkept := (holds_atMost_iff hu s).mpr le_rfl
            rw [heq, holds_atMost_iff hv] at hkept
            exact absurd hkept (not_le_of_gt hless)
          · exists .lte, .amount t
            intro heq
            have hkept := (holds_atMost_iff hv t).mpr le_rfl
            rw [← heq, holds_atMost_iff hu] at hkept
            exact absurd hkept (not_le_of_gt hmore)

theorem holds_figure_eq (h : u.SameRows v) (kind : Figure) (since : Option Timestamp)
    (comparison : Comparison) (bound : Bound)
    (hsum : kind = .completedTotal ->
      Decimal.SameSum (u.donations since) (v.donations since)) :
    (figure kind since comparison bound).holds u =
      (figure kind since comparison bound).holds v := by
  cases kind with
  | completedTotal =>
      exact holds_total_eq (hsum rfl) comparison bound
  | distinctOpens =>
      rw [holds, holds, User.figure_distinctOpens, User.figure_distinctOpens, h.opened_eq]
  | distinctActions =>
      rw [holds, holds, User.figure_distinctActions, User.figure_distinctActions, h.acted_eq]
  | completedCount =>
      rw [holds, holds, User.figure_completedCount, User.figure_completedCount, h.donated_eq]

mutual

theorem holds_eq_of_sameRows (h : u.SameRows v) : forall p : Predicate,
    (forall since, p.AsksForTotal since ->
      Decimal.SameSum (u.donations since) (v.donations since)) ->
    p.holds u = p.holds v
  | .everyone, _ => rfl
  | .nobody, _ => rfl
  | .columnIn column values, _ => by
      rw [holds, holds, h.column_eq]
  | .columnIs column value, _ => by
      rw [holds, holds, h.column_eq]
  | .created comparison time, _ => by
      rw [h.row]
      rfl
  | .within box, _ => by
      rw [h.row]
      rfl
  | .related relation values, _ => by
      rw [holds, holds, h.any_relatedValues_eq]
  | .idIn ids, _ => by
      rw [h.row]
      rfl
  | .figure kind since comparison bound, hsums => by
      apply holds_figure_eq h
      intro hkind
      exact hsums since ⟨comparison, bound, hkind ▸ StandsIn.root⟩
  | .like target pattern, _ => by
      rw [h.row]
      cases target <;> rfl
  | .all parts, hsums =>
      partsHold_eq_of_sameRows .conjunction h parts fun part hpart since hasks =>
        hsums since (hasks.inside (p := all parts) hpart)
  | .any parts, hsums =>
      partsHold_eq_of_sameRows .disjunction h parts fun part hpart since hasks =>
        hsums since (hasks.inside (p := any parts) hpart)
  | .not inner, hsums => by
      rw [holds, holds, holds_eq_of_sameRows h inner]
      intro since hasks
      exact hsums since (hasks.inside List.mem_cons_self)

theorem partsHold_eq_of_sameRows (connective : Connective) (h : u.SameRows v) :
    forall ps : List Predicate,
      (forall p, p ∈ ps -> forall since, p.AsksForTotal since ->
        Decimal.SameSum (u.donations since) (v.donations since)) ->
      connective.partsHold u ps = connective.partsHold v ps
  | [], _ => by
      simp
  | p :: rest, hsums => by
      rw [List.forall_mem_cons] at hsums
      simp [holds_eq_of_sameRows h p hsums.left,
        partsHold_eq_of_sameRows connective h rest hsums.right]

end

/--
For users who differ in the order of their rows only, a predicate has the same outcome unless
it compares a total of donations that comes out differently in the two orders.  It does not as
long as the amounts have room together; where it does, a comparison shows it.
-/
theorem order_of_rows_is_free (h : u.SameRows v) :
    (forall p : Predicate,
      (forall since, p.AsksForTotal since ->
        Decimal.SameSum (u.donations since) (v.donations since)) ->
      p.holds u = p.holds v) ∧
    (Decimal.FitTogether (u.donations none) -> forall p : Predicate, p.holds u = p.holds v) ∧
    (forall since, ¬ Decimal.SameSum (u.donations since) (v.donations since) ->
      exists p : Predicate, p.AsksForTotal since ∧ p.holds u ≠ p.holds v) := by
  refine ⟨holds_eq_of_sameRows h, ?_, ?_⟩
  · intro hroom p
    apply holds_eq_of_sameRows h
    intro since _
    exact (hroom.sublist (u.donations_sublist since)).sameSum (h.donations_perm since)
  · intro since hother
    rcases exists_holds_total_ne hother with ⟨comparison, bound, hne⟩
    exact ⟨_, ⟨comparison, bound, StandsIn.root⟩, hne⟩

private theorem isDate_newYear : IsDate 2020 1 1 := by
  decide

def newYear : Timestamp :=
  .midnight ⟨2020, 1, 1, isDate_newYear⟩

def amountOf (units : Int) (scale : Nat) : Decimal :=
  (Decimal.of? units scale).getD .zero

def donationOf (id : Int) (total : Decimal) : Order :=
  ⟨id, total, completedStatus, newYear⟩

def busyUser : User :=
  { User.unknown 1 "subscribed" with
    phones := ["228", "221"]
    fields := [⟨"campus", "Bonn"⟩, ⟨"campus", "Köln"⟩]
    actions := [⟨1, 7, [3, 4], newYear⟩, ⟨2, 8, [5], newYear⟩]
    openings := [⟨1, newYear⟩, ⟨2, newYear⟩]
    orders := [donationOf 1 (amountOf 1050 2), donationOf 2 (amountOf (-20) 0)] }

def busyUserTurned : User :=
  { User.unknown 1 "subscribed" with
    phones := ["221", "228"]
    fields := [⟨"campus", "Köln"⟩, ⟨"campus", "Bonn"⟩]
    actions := [⟨2, 8, [5], newYear⟩, ⟨1, 7, [4, 3], newYear⟩]
    openings := [⟨2, newYear⟩, ⟨1, newYear⟩]
    orders := [donationOf 2 (amountOf (-20) 0), donationOf 1 (amountOf 1050 2)] }

private theorem busyUser_sameRows : busyUser.SameRows busyUserTurned where
  row := rfl
  phones := List.Perm.swap _ _ _
  fields := List.Perm.swap _ _ _
  actions := by
    exists [⟨1, 7, [4, 3], newYear⟩, ⟨2, 8, [5], newYear⟩]
    constructor
    · exact .cons ⟨rfl, rfl, rfl, List.Perm.swap _ _ _⟩
        (.cons ⟨rfl, rfl, rfl, List.Perm.refl _⟩ .nil)
    · exact List.Perm.swap _ _ _
  openings := List.Perm.swap _ _ _
  orders := List.Perm.swap _ _ _

theorem order_of_rows_is_free_busyUser :
    busyUser.SameRows busyUserTurned ∧ Decimal.FitTogether (busyUser.donations none) ∧
      forall p : Predicate, p.holds busyUser = p.holds busyUserTurned := by
  have hroom : Decimal.FitTogether (busyUser.donations none) := ⟨2, by decide⟩
  have hfree := order_of_rows_is_free busyUser_sameRows
  exact ⟨busyUser_sameRows, hroom, hfree.right.left hroom⟩

def fortune : Decimal :=
  amountOf 79228162514264337593543950334 0

def half : Decimal :=
  amountOf 5 1

def fortuneFirst : User :=
  { User.unknown 1 "subscribed" with
    orders := [donationOf 1 fortune, donationOf 2 half, donationOf 3 half] }

def fortuneLast : User :=
  { User.unknown 1 "subscribed" with
    orders := [donationOf 2 half, donationOf 3 half, donationOf 1 fortune] }

/-- Two halves are rounded away one by one, unless they are added up before. -/
theorem order_of_donations_decides :
    fortuneFirst.SameRows fortuneLast ∧
      (figure .completedTotal none .gt (.amount fortune)).holds fortuneFirst = .ok false ∧
      (figure .completedTotal none .gt (.amount fortune)).holds fortuneLast = .ok true := by
  have horders : fortuneFirst.orders.Perm fortuneLast.orders :=
    (List.Perm.swap _ _ _).trans (List.Perm.cons _ (List.Perm.swap _ _ _))
  exact ⟨⟨rfl, .nil, .nil, ⟨[], .nil, .nil⟩, .nil, horders⟩, rfl, rfl⟩

end Predicate
end Audience
