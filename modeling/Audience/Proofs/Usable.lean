import Mathlib.Data.List.DropRight
import Audience.Proofs.Stages

/-!
# Values that filters can use

## Outcomes that are values

A step of a compilation succeeds exactly if it has a value for the steps behind it.
-/

namespace Audience

def Succeeds (outcome : Except ε α) : Prop :=
  exists value, outcome = .ok value

theorem succeeds_bind {first : Except ε α} {next : α -> Except ε β} :
    Succeeds (first >>= next) <-> exists value, first = .ok value ∧ Succeeds (next value) := by
  constructor
  · intro h
    rcases h with ⟨result, h⟩
    rcases bind_eq_ok.mp h with ⟨value, hfirst, hnext⟩
    exact ⟨value, hfirst, result, hnext⟩
  · intro h
    rcases h with ⟨value, hfirst, result, hnext⟩
    exact ⟨result, bind_eq_ok.mpr ⟨value, hfirst, hnext⟩⟩

theorem succeeds_bind_pure {first : Except ε α} {make : α -> β} :
    Succeeds (first >>= fun value => pure (make value)) <-> Succeeds first := by
  rw [succeeds_bind]
  exact exists_congr fun value => and_iff_left ⟨make value, rfl⟩

@[simp] theorem succeeds_mapError {outcome : Except ε α} {wrap : ε -> δ} :
    Succeeds (outcome.mapError wrap) <-> Succeeds outcome :=
  exists_congr fun _ => mapError_eq_ok

/-!
## Entries

An entry is read without the blanks around it.
-/

namespace Text

private theorem trimStart_trim (s : List Char) : trimStart (trim s) = trim s := by
  -- What is left begins like the text without its leading blanks.
  have hfront : trim s <+: trimStart s := List.rdropWhile_prefix isBlank (trimStart s)
  rw [trimStart, List.dropWhile_eq_self_iff]
  intro hlength
  rw [hfront.getElem hlength]
  exact List.dropWhile_get_zero_not isBlank s (hlength.trans_le hfront.length_le)

private theorem trim_trim (s : List Char) : trim (trim s) = trim s := by
  have hend : trimEnd (trim s) = trim s := List.rdropWhile_idempotent isBlank (trimStart s)
  rw [trim, trimStart_trim, hend]

@[simp] theorem trim_trimmed (s : String) : trim (trimmed s).toList = trim s.toList := by
  rw [trimmed, String.toList_ofList, trim_trim]

end Text

namespace Entry

open Text Time

theorem date_eq_ok {filter raw : String} {time : Timestamp} :
    date filter raw = .ok time <-> readEntered? (trim raw.toList) = some time := by
  unfold date
  split <;> simp_all

theorem count_eq_ok {filter raw : String} {n : Int} :
    count filter raw = .ok n <-> int64? (trim raw.toList) = some n := by
  unfold count
  split <;> simp_all

theorem amount_eq_ok {filter raw : String} {d : Decimal} :
    amount filter raw = .ok d <-> Decimal.read? (trim raw.toList) = some d := by
  unfold amount
  split <;> simp_all

theorem distance_eq_ok {raw : String} {miles : Float} :
    distance raw = .ok miles <->
      Number.readFloat? (trim raw.toList) = some miles ∧ miles.isFinite = true ∧
        0.0 < miles := by
  unfold distance
  cases Number.readFloat? (trim raw.toList) with
  | none =>
      simp
  | some found =>
      dsimp only
      by_cases h : (found.isFinite && decide (0.0 < found)) = true
      · rw [if_pos h, Except.ok.injEq, Option.some.injEq]
        rw [Bool.and_eq_true, decide_eq_true_iff] at h
        constructor
        · intro h
          rcases h with rfl
          exact ⟨rfl, h⟩
        · intro h
          rcases h with ⟨rfl, _⟩
          rfl
      · rw [if_neg h]
        rw [Bool.and_eq_true, decide_eq_true_iff] at h
        constructor
        · intro hfalse
          cases hfalse
        · intro h
          rcases h with ⟨heq, hinside⟩
          cases heq
          exact absurd hinside h

/-- Every place of the list that is not blank holds an id, and there is such a place. -/
structure ListsIds (raw : String) : Prop where
  read :
    forall part, part ∈ splitOn ',' raw.toList -> trim part ≠ [] ->
      exists id, int64? (trim part) = some id
  filled : exists part, part ∈ splitOn ',' raw.toList ∧ trim part ≠ []

theorem idsOf_succeeds_iff {parts : List (List Char)} :
    Succeeds (idsOf parts) <->
      forall part, part ∈ parts -> trim part ≠ [] -> exists id, int64? (trim part) = some id := by
  induction parts with
  | nil =>
      simp [idsOf, Succeeds]
  | cons part parts ih =>
      rw [List.forall_mem_cons, ← ih, idsOf]
      by_cases hblank : trim part = []
      · simp [hblank]
      · rw [if_neg (by simpa using hblank)]
        cases int64? (trim part) with
        | none =>
            simp [hblank, Succeeds]
        | some id =>
            cases idsOf parts <;> simp [Succeeds, Except.map]

theorem idsOf_eq_nil {parts : List (List Char)} :
    idsOf parts = .ok [] <-> forall part, part ∈ parts -> trim part = [] := by
  induction parts with
  | nil =>
      simp [idsOf]
  | cons part parts ih =>
      rw [List.forall_mem_cons, ← ih, idsOf]
      by_cases hblank : trim part = []
      · simp [hblank]
      · rw [if_neg (by simpa using hblank)]
        cases int64? (trim part) with
        | none =>
            simp [hblank]
        | some id =>
            cases idsOf parts <;> simp [hblank, Except.map]

theorem userIds_succeeds_iff {raw : String} : Succeeds (userIds raw) <-> ListsIds raw := by
  have hlists : ListsIds raw <-> Succeeds (idsOf (splitOn ',' raw.toList)) ∧
      idsOf (splitOn ',' raw.toList) ≠ .ok [] := by
    rw [idsOf_succeeds_iff, Ne, idsOf_eq_nil]
    constructor
    · intro h
      rcases h with ⟨hall, part, hpart, hfilled⟩
      exact ⟨hall, fun hblank => hfilled (hblank part hpart)⟩
    · intro h
      rcases h with ⟨hall, hfilled⟩
      push Not at hfilled
      exact ⟨hall, hfilled⟩
  rw [hlists, userIds]
  split
  · rename_i hnil
    simp [hnil, Succeeds]
  · rename_i hother
    exact (and_iff_left hother).symm

end Entry

namespace FilterItem

open Text Time

/-- The date that a companion stands for, if the companion is given. -/
def DatedBy (item : FilterItem) (companion : String) : Option Timestamp -> Prop
  | none => item.companion? companion = none
  | some time =>
      exists raw, item.companion? companion = some raw ∧
        readEntered? (trim raw.toList) = some time

/-- The distance is a finite number of miles above zero, the postal code is found, and the box
around it can be used. -/
def HasBox (geocoder : Geo.Geocoder) (postalCode distance : String) : Prop :=
  exists miles center,
    Number.readFloat? (trim distance.toList) = some miles ∧ miles.isFinite = true ∧
      0.0 < miles ∧ geocoder.resolve postalCode = .ok center ∧
        (Geo.Box.around center miles).isDegenerate = false

/--
The first value of a filter and its companions are what its builder asks for, and whoever is
asked for them has an answer.
-/
def Usable (sources : Sources) (spec : FilterSpec) (item : FilterItem) : Prop :=
  exists raw, item.values.head? = some raw ∧
    match spec.builder with
    | .membership => spec.field ≠ none
    | .createdBefore | .createdAfter =>
        exists time, readEntered? (trim raw.toList) = some time
    | .postalRadius =>
        forall distance, item.companion? distanceCompanion = some distance ->
          HasBox sources.geocoder (trimmed raw) distance
    | .contactedSince =>
        exists time ids, readEntered? (trim raw.toList) = some time ∧
          sources.contacts.userIds
            ⟨some time, (item.companion? contactedByCompanion).map trimmed⟩ = .ok ids
    | .contactedBy =>
        exists since ids, item.DatedBy contactedSinceCompanion since ∧
          sources.contacts.userIds ⟨since, some (trimmed raw)⟩ = .ok ids
    | .emailsOpened | .moreActions | .donatedTimes =>
        (exists n, int64? (trim raw.toList) = some n) ∧
          exists since, item.DatedBy sinceCompanion since
    | .donatedMore =>
        (exists d, Decimal.read? (trim raw.toList) = some d) ∧
          exists since, item.DatedBy sinceCompanion since

end FilterItem

/-!
## Builders
-/

namespace BuiltItem

open Text Time

theorem firstValue_eq_ok {item : FilterItem} {raw : String} :
    firstValue item = .ok raw <-> item.values.head? = some raw := by
  unfold firstValue
  cases item.values <;> simp

theorem companionDate_eq_ok {item : FilterItem} {companion : String}
    {since : Option Timestamp} :
    companionDate item companion = .ok since <-> item.DatedBy companion since := by
  unfold companionDate
  cases hraw : item.companion? companion with
  | none =>
      cases since <;> simp [FilterItem.DatedBy, hraw]
  | some raw =>
      have hdate : forall time, Entry.date item.name raw = .ok time <->
          readEntered? (trim raw.toList) = some time := fun _ => Entry.date_eq_ok
      cases hread : Entry.date item.name raw with
      | error cause =>
          cases since <;> simp [FilterItem.DatedBy, hraw, ← hdate, hread, Except.map]
      | ok time =>
          cases since <;> simp [FilterItem.DatedBy, hraw, ← hdate, hread, Except.map]

theorem succeeds_firstValue {item : FilterItem} {next : String -> Except RequestError β}
    {need : String -> Prop} (hnext : forall raw, Succeeds (next raw) <-> need raw) :
    Succeeds (firstValue item >>= next) <->
      exists raw, item.values.head? = some raw ∧ need raw := by
  rw [succeeds_bind]
  exact exists_congr fun raw => and_congr firstValue_eq_ok (hnext raw)

theorem succeeds_mapError_firstValue {item : FilterItem}
    {next : String -> Except SearchError β} {need : String -> Prop}
    (hnext : forall raw, Succeeds (next raw) <-> need raw) :
    Succeeds ((firstValue item).mapError .request >>= next) <->
      exists raw, item.values.head? = some raw ∧ need raw := by
  rw [succeeds_bind]
  exact exists_congr fun raw =>
    and_congr (mapError_eq_ok.trans firstValue_eq_ok) (hnext raw)

theorem companionDate_succeeds_iff {item : FilterItem} {companion : String} :
    Succeeds (companionDate item companion) <-> exists since, item.DatedBy companion since :=
  exists_congr fun _ => companionDate_eq_ok

theorem membership_succeeds_iff {spec : FilterSpec} {item : FilterItem} :
    Succeeds (membership spec item) <->
      exists raw, item.values.head? = some raw ∧ spec.field ≠ none := by
  rw [membership]
  apply succeeds_firstValue
  intro raw
  rcases spec.field with _ | column | relation <;> simp [Succeeds, pure, Except.pure]

theorem createdDate_succeeds_iff {comparison : Comparison} {words : String}
    {item : FilterItem} :
    Succeeds (createdDate comparison words item) <->
      exists raw, item.values.head? = some raw ∧
        exists time, readEntered? (trim raw.toList) = some time := by
  rw [createdDate]
  apply succeeds_firstValue
  intro raw
  rw [succeeds_bind_pure]
  exact exists_congr fun time => Entry.date_eq_ok

theorem counted_succeeds_iff {item : FilterItem}
    {make : Int -> Option Timestamp -> BuiltItem} :
    Succeeds (firstValue item >>= fun raw =>
        Entry.count item.name raw >>= fun n =>
          companionDate item sinceCompanion >>= fun since => pure (make n since)) <->
      exists raw, item.values.head? = some raw ∧
        (exists n, int64? (trim raw.toList) = some n) ∧
          exists since, item.DatedBy sinceCompanion since := by
  apply succeeds_firstValue
  intro raw
  rw [succeeds_bind, ← exists_and_right]
  apply exists_congr
  intro n
  rw [Entry.count_eq_ok, succeeds_bind_pure, companionDate_succeeds_iff]

theorem donatedMore_succeeds_iff {item : FilterItem} :
    Succeeds (donatedMore item) <->
      exists raw, item.values.head? = some raw ∧
        (exists d, Decimal.read? (trim raw.toList) = some d) ∧
          exists since, item.DatedBy sinceCompanion since := by
  rw [donatedMore]
  apply succeeds_firstValue
  intro raw
  rw [succeeds_bind, ← exists_and_right]
  apply exists_congr
  intro d
  rw [Entry.amount_eq_ok, trim_trimmed, succeeds_bind_pure, companionDate_succeeds_iff]

theorem radiusBox_succeeds_iff {geocoder : Geo.Geocoder} {postalCode distance : String} :
    Succeeds (radiusBox geocoder postalCode distance) <->
      FilterItem.HasBox geocoder postalCode distance := by
  rw [radiusBox, succeeds_bind, FilterItem.HasBox]
  apply exists_congr
  intro miles
  rw [mapError_eq_ok, Entry.distance_eq_ok, succeeds_bind]
  simp only [and_assoc, exists_and_left]
  refine and_congr_right fun _ => and_congr_right fun _ => and_congr_right fun _ => ?_
  apply exists_congr
  intro center
  rw [mapError_eq_ok]
  apply and_congr_right
  intro _
  cases (Geo.Box.around center miles).isDegenerate <;> simp [Succeeds, pure, Except.pure]

theorem postalRadius_succeeds_iff {geocoder : Geo.Geocoder} {item : FilterItem} :
    Succeeds (postalRadius geocoder item) <->
      exists raw, item.values.head? = some raw ∧
        forall distance, item.companion? distanceCompanion = some distance ->
          FilterItem.HasBox geocoder (trimmed raw) distance := by
  rw [postalRadius]
  apply succeeds_mapError_firstValue
  intro raw
  cases item.companion? distanceCompanion with
  | none =>
      simp [Succeeds, pure, Except.pure]
  | some distance =>
      simp only [Option.some.injEq, forall_eq']
      rw [succeeds_bind_pure, radiusBox_succeeds_iff]

theorem contacted_succeeds_iff {log : ContactLog} {criteria : ContactCriteria} :
    Succeeds (contacted log criteria) <-> exists ids, log.userIds criteria = .ok ids := by
  unfold contacted
  cases log.userIds criteria <;> simp [Succeeds]

theorem contactedSince_succeeds_iff {log : ContactLog} {item : FilterItem} :
    Succeeds (contactedSince log item) <->
      exists raw, item.values.head? = some raw ∧
        exists time ids, readEntered? (trim raw.toList) = some time ∧
          log.userIds ⟨some time, (item.companion? contactedByCompanion).map trimmed⟩ =
            .ok ids := by
  rw [contactedSince]
  apply succeeds_mapError_firstValue
  intro raw
  rw [succeeds_bind]
  apply exists_congr
  intro time
  rw [mapError_eq_ok, Entry.date_eq_ok, trim_trimmed, succeeds_bind_pure,
    contacted_succeeds_iff, exists_and_left]

theorem contactedBy_succeeds_iff {log : ContactLog} {item : FilterItem} :
    Succeeds (contactedBy log item) <->
      exists raw, item.values.head? = some raw ∧
        exists since ids, item.DatedBy contactedSinceCompanion since ∧
          log.userIds ⟨since, some (trimmed raw)⟩ = .ok ids := by
  rw [contactedBy]
  apply succeeds_mapError_firstValue
  intro raw
  rw [succeeds_bind]
  apply exists_congr
  intro since
  rw [mapError_eq_ok, companionDate_eq_ok, succeeds_bind_pure, contacted_succeeds_iff,
    exists_and_left]

/-- A filter becomes a condition exactly if its builder can use its values. -/
theorem ofItem_succeeds_iff {sources : Sources} {spec : FilterSpec} {item : FilterItem} :
    Succeeds (ofItem sources spec item) <-> item.Usable sources spec := by
  unfold ofItem FilterItem.Usable
  cases spec.builder with
  | membership =>
      exact succeeds_mapError.trans membership_succeeds_iff
  | createdBefore =>
      exact succeeds_mapError.trans createdDate_succeeds_iff
  | createdAfter =>
      exact succeeds_mapError.trans createdDate_succeeds_iff
  | postalRadius =>
      exact postalRadius_succeeds_iff
  | contactedSince =>
      exact contactedSince_succeeds_iff
  | contactedBy =>
      exact contactedBy_succeeds_iff
  | emailsOpened =>
      exact succeeds_mapError.trans counted_succeeds_iff
  | moreActions =>
      exact succeeds_mapError.trans counted_succeeds_iff
  | donatedMore =>
      exact succeeds_mapError.trans donatedMore_succeeds_iff
  | donatedTimes =>
      exact succeeds_mapError.trans counted_succeeds_iff

end BuiltItem
end Audience
