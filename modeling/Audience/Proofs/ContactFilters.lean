import Audience.Proofs.AscendingNumbers
import Audience.Proofs.Calendar
import Audience.Proofs.Evaluation
import Audience.Proofs.Items
import Audience.Proofs.Usable

/-!
# Contact filters

## Contacts on record

A contact counts if it was completed after the date, and not at it, and if it was made by
exactly the one who is named.  The log answers with the users of the contacts that count.
-/

namespace Audience

open Time

/-- A contact with the user is on record, after a time and by someone if these are given. -/
def User.Contacted (user : User) (records : List ContactRecord) (criteria : ContactCriteria) :
    Prop :=
  exists record, record ∈ records ∧ record.userId = user.id ∧
    (forall since, criteria.since = some since -> since.Before record.completedAt) ∧
    forall who, criteria.contactedBy = some who -> record.contactedBy = who

theorem ContactRecord.meets_iff {record : ContactRecord} {criteria : ContactCriteria} :
    record.meets criteria = true <->
      (forall since, criteria.since = some since -> since.Before record.completedAt) ∧
      forall who, criteria.contactedBy = some who -> record.contactedBy = who := by
  rcases criteria with ⟨since | bound, who | name⟩ <;>
    simp [meets, Timestamp.lt_iff]

theorem ContactLog.userIds_ofRecords (records : List ContactRecord) (criteria : ContactCriteria) :
    exists ids, (ofRecords records).userIds criteria = .ok ids ∧ ids.Pairwise (· < ·) ∧
      forall user : User, user.id ∈ ids <-> user.Contacted records criteria := by
  refine ⟨_, rfl, Number.pairwise_ascending _, ?_⟩
  intro user
  rw [Number.mem_ascending, List.mem_map]
  apply exists_congr
  intro record
  rw [List.mem_filter, ContactRecord.meets_iff, and_assoc]
  exact and_congr_right fun _ => and_comm

private theorem Predicate.decides_idIn (user : User) (ids : List Int) :
    Decides ((idIn ids).holds user) (user.id ∈ ids) :=
  ⟨ids.contains user.id, by rw [holds], List.contains_iff_mem⟩

/-!
## Filters
-/

namespace BuiltItem

/-- The filter names the users that were contacted, or all others if it is turned round. -/
structure FindsContacted (built : BuiltItem) (included : Bool) (records : List ContactRecord)
    (criteria : ContactCriteria) : Prop where
  ascending : exists ids, ids.Pairwise (· < ·) ∧
    built.predicate = (Predicate.idIn ids).toggled included
  found : included = true -> forall user : User,
    Predicate.Decides (built.predicate.holds user) (user.Contacted records criteria)
  others : included = false -> forall user : User,
    Predicate.Decides (built.predicate.holds user) (¬ user.Contacted records criteria)
  /-- Without a contact there is nobody to find, and nobody to leave out. -/
  nobody : (forall record, record ∈ records -> record.meets criteria = false) ->
    forall user : User, built.predicate.holds user = .ok (!included)

theorem findsContacted_of_ids {built : BuiltItem} {included : Bool}
    {records : List ContactRecord} {criteria : ContactCriteria} {ids : List Int}
    (hascending : ids.Pairwise (· < ·))
    (hids : forall user : User, user.id ∈ ids <-> user.Contacted records criteria)
    (hbuilt : built.predicate = (Predicate.idIn ids).toggled included) :
    built.FindsContacted included records criteria := by
  have hcontacted : forall user : User,
      Predicate.Decides ((Predicate.idIn ids).holds user) (user.Contacted records criteria) :=
    fun user => Predicate.decides_congr (Predicate.decides_idIn user ids) (hids user)
  refine ⟨⟨ids, hascending, hbuilt⟩, ?found, ?others, ?nobody⟩
  case found =>
    intro hincluded user
    rw [hbuilt, hincluded]
    exact hcontacted user
  case others =>
    intro hexcluded user
    rw [hbuilt, hexcluded]
    exact Predicate.decides_negate (hcontacted user)
  case nobody =>
    intro hnone user
    have hnot : ¬ user.Contacted records criteria := by
      intro h
      rcases h with ⟨record, hrecord, _, hmeets⟩
      have hfails := hnone record hrecord
      rw [ContactRecord.meets_iff.mpr hmeets] at hfails
      cases hfails
    rw [hbuilt]
    cases included with
    | true =>
        exact (hcontacted user).eq_false hnot
    | false =>
        exact (Predicate.decides_negate (hcontacted user)).eq_true hnot

variable {log : ContactLog} {item : FilterItem} {raw : String} {ids : List Int}

theorem contactedSince_eq_ok {time : Timestamp} (hraw : item.values.head? = some raw)
    (htime : Entry.date item.name raw = .ok time)
    (hids : log.userIds ⟨some time, (item.companion? contactedByCompanion).map Text.trimmed⟩ =
      .ok ids) :
    exists built, contactedSince log item = .ok built ∧
      built.predicate = (Predicate.idIn ids).toggled item.included := by
  have htrimmed : Entry.date item.name (Text.trimmed raw) = .ok time := by
    rw [Entry.date_eq_ok, Text.trim_trimmed]
    exact Entry.date_eq_ok.mp htime
  have hcontacted : contacted log
      ⟨some time, (item.companion? contactedByCompanion).map Text.trimmed⟩ = .ok (.idIn ids) := by
    rw [contacted, hids]
  have hbuilt : contactedSince log item = .ok _ :=
    bind_eq_ok.mpr ⟨raw, mapError_eq_ok.mpr (firstValue_eq_ok.mpr hraw),
      bind_eq_ok.mpr ⟨time, mapError_eq_ok.mpr htrimmed,
        bind_eq_ok.mpr ⟨_, hcontacted, rfl⟩⟩⟩
  exact ⟨_, hbuilt, toggled_predicate _ _ _⟩

private theorem contactedBy_eq_ok {since : Option Timestamp} (hraw : item.values.head? = some raw)
    (hsince : item.DatedBy contactedSinceCompanion since)
    (hids : log.userIds ⟨since, some (Text.trimmed raw)⟩ = .ok ids) :
    exists built, contactedBy log item = .ok built ∧
      built.predicate = (Predicate.idIn ids).toggled item.included := by
  have hcontacted : contacted log ⟨since, some (Text.trimmed raw)⟩ = .ok (.idIn ids) := by
    rw [contacted, hids]
  have hbuilt : contactedBy log item = .ok _ :=
    bind_eq_ok.mpr ⟨raw, mapError_eq_ok.mpr (firstValue_eq_ok.mpr hraw),
      bind_eq_ok.mpr ⟨since, mapError_eq_ok.mpr (companionDate_eq_ok.mpr hsince),
        bind_eq_ok.mpr ⟨_, hcontacted, rfl⟩⟩⟩
  exact ⟨_, hbuilt, toggled_predicate _ _ _⟩

/-- The two contact filters find the contacted users, and each of them can take the place of the
other. -/
structure ContactFilters (sources : Sources) (records : List ContactRecord) : Prop where
  since : forall spec item raw time, spec.builder = .contactedSince ->
    item.values.head? = some raw -> Entry.date item.name raw = .ok time ->
    exists built, ofItem sources spec item = .ok built ∧
      FindsContacted built item.included records
        ⟨some time, (item.companion? contactedByCompanion).map Text.trimmed⟩
  someone : forall spec item raw since, spec.builder = .contactedBy ->
    item.values.head? = some raw -> item.DatedBy contactedSinceCompanion since ->
    exists built, ofItem sources spec item = .ok built ∧
      FindsContacted built item.included records ⟨since, some (Text.trimmed raw)⟩
  alike : forall sinceSpec bySpec sinceItem byItem date who time,
    sinceSpec.builder = .contactedSince -> bySpec.builder = .contactedBy ->
    sinceItem.values.head? = some date -> byItem.values.head? = some who ->
    sinceItem.companion? contactedByCompanion = some who ->
    byItem.companion? contactedSinceCompanion = some date ->
    sinceItem.included = byItem.included -> Entry.date sinceItem.name date = .ok time ->
    exists built other, ofItem sources sinceSpec sinceItem = .ok built ∧
      ofItem sources bySpec byItem = .ok other ∧ built.predicate = other.predicate

theorem contact_filters_find_contacted (geocoder : Geo.Geocoder) (records : List ContactRecord) :
    ContactFilters ⟨geocoder, .ofRecords records⟩ records where
  since := by
    intro spec item raw time hspec hraw htime
    rcases ContactLog.userIds_ofRecords records
      ⟨some time, (item.companion? contactedByCompanion).map Text.trimmed⟩ with
      ⟨ids, hids, hascending, hcontacted⟩
    rcases contactedSince_eq_ok hraw htime hids with ⟨built, hbuilt, hpredicate⟩
    refine ⟨built, ?_, findsContacted_of_ids hascending hcontacted hpredicate⟩
    rw [ofItem, hspec]
    exact hbuilt
  someone := by
    intro spec item raw since hspec hraw hsince
    rcases ContactLog.userIds_ofRecords records ⟨since, some (Text.trimmed raw)⟩ with
      ⟨ids, hids, hascending, hcontacted⟩
    rcases contactedBy_eq_ok hraw hsince hids with ⟨built, hbuilt, hpredicate⟩
    refine ⟨built, ?_, findsContacted_of_ids hascending hcontacted hpredicate⟩
    rw [ofItem, hspec]
    exact hbuilt
  alike := by
    intro sinceSpec bySpec sinceItem byItem date who time hsinceSpec hbySpec hdate hwho
      hcompanion hother hincluded htime
    rcases ContactLog.userIds_ofRecords records ⟨some time, some (Text.trimmed who)⟩ with
      ⟨ids, hids, _⟩
    have hsinceIds : (ContactLog.ofRecords records).userIds
        ⟨some time, (sinceItem.companion? contactedByCompanion).map Text.trimmed⟩ = .ok ids := by
      rw [hcompanion]
      exact hids
    have hdated : byItem.DatedBy contactedSinceCompanion (some time) :=
      ⟨date, hother, Entry.date_eq_ok.mp htime⟩
    rcases contactedSince_eq_ok hdate htime hsinceIds with ⟨built, hbuilt, hpredicate⟩
    rcases contactedBy_eq_ok hwho hdated hids with ⟨other, hotherBuilt, hotherPredicate⟩
    refine ⟨built, other, ?_, ?_, ?_⟩
    · rw [ofItem, hsinceSpec]
      exact hbuilt
    · rw [ofItem, hbySpec]
      exact hotherBuilt
    · rw [hpredicate, hotherPredicate, hincluded]

def aprilFirst : Timestamp :=
  .midnight ⟨2021, 4, 1, by decide⟩

def nextSecond : Timestamp :=
  ⟨⟨2021, 4, 1, by decide⟩, 1, 0, by decide⟩

/-- Contacts made by Ann, out of order and one of them twice. -/
def contactsOfAnn : List ContactRecord :=
  [⟨5, nextSecond, "ann"⟩, ⟨3, nextSecond, "ann"⟩, ⟨5, nextSecond, "ann"⟩, ⟨4, aprilFirst, "ann"⟩]

def notSinceApril : FilterItem :=
  ⟨"contacted_since", [" 2021-04-01"], false, [(contactedByCompanion, "ann ")]⟩

def notByAnn : FilterItem :=
  ⟨"contacted_by", ["ann "], false, [(contactedSinceCompanion, " 2021-04-01")]⟩

/-- Whoever was contacted at the date itself does not count as contacted since. -/
theorem contact_filters_find_contacted_ofAnn :
    exists built other,
      ofItem ⟨.provider (.table []), .ofRecords contactsOfAnn⟩
        (Catalog.ofBuilder "contacted_since" .contactedSince [contactedByCompanion])
        notSinceApril = .ok built ∧
      ofItem ⟨.provider (.table []), .ofRecords contactsOfAnn⟩
        (Catalog.ofBuilder "contacted_by" .contactedBy [contactedSinceCompanion])
        notByAnn = .ok other ∧
      built.predicate = other.predicate ∧ built.predicate = .not (.idIn [3, 5]) ∧
      FindsContacted built false contactsOfAnn ⟨some aprilFirst, some "ann"⟩ := by
  have hfilters := contact_filters_find_contacted (.provider (.table [])) contactsOfAnn
  have htime : Entry.date notSinceApril.name " 2021-04-01" = .ok aprilFirst := rfl
  rcases hfilters.alike (Catalog.ofBuilder "contacted_since" .contactedSince [contactedByCompanion])
    (Catalog.ofBuilder "contacted_by" .contactedBy [contactedSinceCompanion]) notSinceApril notByAnn
    " 2021-04-01" "ann " aprilFirst rfl rfl rfl rfl rfl rfl rfl htime with
    ⟨built, other, hbuilt, hother, hsame⟩
  rcases hfilters.since (Catalog.ofBuilder "contacted_since" .contactedSince [contactedByCompanion])
    notSinceApril " 2021-04-01" aprilFirst rfl rfl htime with ⟨found, hfound, hfinds⟩
  rw [hbuilt] at hfound
  cases hfound
  refine ⟨built, other, hbuilt, hother, hsame, ?_, hfinds⟩
  cases hbuilt
  rfl

end BuiltItem
end Audience
