import Audience.Text.Split
import Audience.Vocabulary

/-!
# The catalog of filters

The filters that a search page offers.  A filter has a name, a builder that turns its values
into a condition, for membership filters the place where the values are looked for, and
companions: further parameters that belong to it alone.
-/

namespace Audience

inductive FieldPath where
  | column (column : Column)
  | related (relation : Relation)
  deriving DecidableEq, Repr

inductive Builder where
  | membership
  /-- Created at a date or before. -/
  | createdBefore
  /-- Created at a date or after. -/
  | createdAfter
  | postalRadius
  | contactedSince
  | contactedBy
  | emailsOpened
  | moreActions
  | donatedMore
  | donatedTimes
  deriving DecidableEq, Repr

structure FilterSpec where
  name : String
  field : Option FieldPath
  builder : Builder
  companions : List String
  deriving DecidableEq, Repr

/-- Filters in the order of their declaration; of equal names the last one counts. -/
structure Catalog where
  specs : List FilterSpec
  deriving DecidableEq, Repr

/-!
# Companions
-/

def distanceCompanion : String := "distance"

def contactedByCompanion : String := "contacted_by"

def contactedSinceCompanion : String := "contacted_since"

def sinceCompanion : String := "since"

/-- Stands between the name of a filter and the name of its companion. -/
def companionMark : String := "__"

namespace Catalog

def get? (catalog : Catalog) (name : String) : Option FilterSpec :=
  (catalog.specs.filter fun spec => spec.name == name).getLast?

def isCompanion (catalog : Catalog) (item : String) : Bool :=
  match Text.cutString? companionMark item with
  | some (primary, companion) =>
      match catalog.get? primary with
      | some spec => spec.companions.contains companion
      | none => false
  | none => false

def ofColumn (name : String) (column : Column) : FilterSpec :=
  ⟨name, some (.column column), .membership, []⟩

def ofRelation (name : String) (relation : Relation) : FilterSpec :=
  ⟨name, some (.related relation), .membership, []⟩

def ofUserField (name : String) : FilterSpec :=
  ofRelation name (.userField name)

def ofBuilder (name : String) (builder : Builder) (companions : List String) : FilterSpec :=
  ⟨name, none, builder, companions⟩

def standard : Catalog where
  specs :=
    [ ofColumn "country" .country,
      ofColumn "region" .region,
      ofColumn "state" .state,
      ofColumn "city" .city,
      ofBuilder "zipcode" .postalRadius [distanceCompanion],
      ofRelation "action" .actionPage,
      ofColumn "source" .source,
      ofRelation "tag" .actionPageTag,
      ofBuilder "contacted_since" .contactedSince [contactedByCompanion],
      ofBuilder "contacted_by" .contactedBy [contactedSinceCompanion],
      ofBuilder "emails_opened" .emailsOpened [sinceCompanion],
      ofBuilder "more_actions" .moreActions [sinceCompanion],
      ofBuilder "donated_more" .donatedMore [sinceCompanion],
      ofBuilder "donated_times" .donatedTimes [sinceCompanion],
      ofUserField "campus",
      ofUserField "skills",
      ofUserField "engagement_level",
      ofColumn "language" .language,
      ofUserField "student",
      ofUserField "affiliation",
      ofBuilder "created_before" .createdBefore [],
      ofBuilder "created_after" .createdAfter [] ]

end Catalog
end Audience
