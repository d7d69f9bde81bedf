import Audience.Proofs.FirstFailure
import Audience.Proofs.GroupIsolation

/-!
# What is read of a listed name

A filter is read from one name that the marker of its group lists.  What it is made of is
said here once, so that a statement about filters need not open the reading again.
-/

namespace Audience
namespace FilterGroup

variable {form : Form} {catalog : Catalog} {key number : String} {item : FilterItem}

namespace Listing

def start (form : Form) (listing : Listing) : String :=
  prefixOf form listing.key listing.number listing.name

def filledValues (form : Form) (listing : Listing) : List String :=
  form.filledValues (keyUnder (listing.start form) listing.name)

/-- The filter is the one that is listed under the name. -/
structure Gives (form : Form) (catalog : Catalog) (listing : Listing) (item : FilterItem) :
    Prop where
  filter : catalog.isCompanion listing.name = false
  name : item.name = listing.name
  values : item.values = listing.filledValues form
  filled : item.values ≠ []
  known :
    exists spec, catalog.get? item.name = some spec ∧
      item.companions = companionsOf form (keyUnder (listing.start form) listing.name) spec

end Listing

theorem gives_of_read {listing : Listing} (h : listing.read form catalog = .ok (some item)) :
    listing.Gives form catalog item := by
  unfold Listing.read item? at h
  split at h
  · cases h
  · rename_i hfilter
    dsimp only at h
    split at h
    · cases h
    · rename_i hfilled
      rw [List.isEmpty_iff] at hfilled
      split at h
      · cases h
      · rename_i spec hspec
        cases h
        exact ⟨Bool.not_eq_true _ ▸ hfilter, rfl, rfl, hfilled, spec, hspec, rfl⟩

private theorem exists_read_of_mem {names : List String} {items : List FilterItem}
    (h : itemsOf form catalog key number names = .ok items) (hitem : item ∈ items) :
    exists name, name ∈ names ∧ item? form catalog key number name = .ok (some item) := by
  induction names generalizing items with
  | nil =>
      cases h
      cases hitem
  | cons name names ih =>
      unfold itemsOf at h
      rcases bind_eq_ok.mp h with ⟨first, hfirst, h⟩
      rcases bind_eq_ok.mp h with ⟨rest, hrest, h⟩
      cases h
      rcases List.mem_append.mp hitem with hitem | hitem
      · rw [Option.mem_toList] at hitem
        rw [hitem] at hfirst
        exact ⟨name, List.mem_cons_self, hfirst⟩
      · rcases ih hrest hitem with ⟨other, hother, hread⟩
        exact ⟨other, List.mem_cons_of_mem _ hother, hread⟩

theorem mem_listings_iff {listing : Listing} :
    listing ∈ listings form <->
      listed? form listing.key = some listing.number ∧ listing.name ∈ form.values listing.key := by
  rw [listings, List.mem_flatMap]
  constructor
  · intro h
    rcases h with ⟨key, _, hmem⟩
    unfold listingsOf at hmem
    cases hlisted : listed? form key with
    | none =>
        rw [hlisted] at hmem
        cases hmem
    | some number =>
        rw [hlisted] at hmem
        rcases List.mem_map.mp hmem with ⟨name, hname, rfl⟩
        exact ⟨hlisted, hname⟩
  · intro h
    rcases h with ⟨hlisted, hname⟩
    rcases listed?_eq_some.mp hlisted with ⟨_, last, hlast, _⟩
    refine ⟨listing.key, Form.mem_keys_of_last? hlast, ?_⟩
    rw [listingsOf, hlisted]
    exact List.mem_map.mpr ⟨listing.name, hname, rfl⟩

/-- Every filter of an accepted form is given by a name that its group lists. -/
theorem exists_gives_of_mem {groups : List FilterGroup} {group : FilterGroup}
    (h : ofForm form catalog = .ok groups) (hgroup : group ∈ groups)
    (hitem : item ∈ group.items) :
    exists listing, listing ∈ listings form ∧ listing.key = group.key ∧
      listing.Gives form catalog item := by
  rcases (mem_ofForm h group).mp hgroup with ⟨number, hlisted, hitems⟩
  rcases exists_read_of_mem hitems hitem with ⟨name, hname, hread⟩
  exact ⟨⟨group.key, number, name⟩, mem_listings_iff.mpr ⟨hlisted, hname⟩, rfl,
    gives_of_read hread⟩

/-- A form is refused for a name that is listed with values but stands for no filter. -/
theorem exists_listing_of_error {cause : RequestError} (h : ofForm form catalog = .error cause) :
    exists listing, listing ∈ listings form ∧ catalog.isCompanion listing.name = false ∧
      listing.filledValues form ≠ [] ∧ catalog.get? listing.name = none ∧
      cause = .unknownFilter listing.name := by
  rcases ofForm_eq_error.mp h with ⟨before, listing, after, hlistings, _, hread⟩
  refine ⟨listing, ?_, read_eq_error.mp hread⟩
  rw [hlistings]
  exact List.mem_append_right _ List.mem_cons_self

end FilterGroup
end Audience
