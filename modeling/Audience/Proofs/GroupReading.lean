import Audience.Proofs.Stages

/-!
# Filters that are read from a form

## Groups and their filters

A group is read if the last value of its marker says so, and of a group that is read every
listed filter is.  Blank fields may stand between the filled ones: they neither add a value
nor take one away.
-/

namespace Audience

namespace Form

def Carries (form : Form) (key : String) : Prop :=
  exists value, value ∈ form.values key ∧ Text.blank value = false

theorem filledValues_ne_nil_iff (form : Form) (key : String) :
    form.filledValues key ≠ [] <-> form.Carries key := by
  simp [filledValues, Carries, List.filter_eq_nil_iff]

theorem has_eq_false_iff (form : Form) (key : String) :
    form.has key = false <-> form.values key = [] := by
  simp [has, values, List.filter_eq_nil_iff]

theorem Carries.has {form : Form} {key : String} (h : form.Carries key) :
    form.has key = true := by
  rcases h with ⟨value, hvalue, _⟩
  rw [← Bool.not_eq_false, has_eq_false_iff]
  exact List.ne_nil_of_mem hvalue

theorem mem_keys_of_last? {form : Form} {key last : String} (h : form.last? key = some last) :
    key ∈ form.keys := by
  have hmem : last ∈ form.values key := List.mem_of_getLast? h
  rcases List.mem_map.mp hmem with ⟨field, hfield, _⟩
  rw [List.mem_filter, beq_iff_eq] at hfield
  rw [keys, List.mem_eraseDups, ← hfield.right]
  exact List.mem_map_of_mem hfield.left

end Form

theorem Catalog.mem_specs_of_get? {catalog : Catalog} {name : String} {spec : FilterSpec}
    (h : catalog.get? name = some spec) :
    spec ∈ catalog.specs ∧ spec.name = name := by
  have hmem := List.mem_of_getLast? h
  rwa [List.mem_filter, beq_iff_eq] at hmem

namespace FilterGroup

/-- A key of a group: what all of them begin with, and what the key stands for. -/
def keyUnder (start rest : String) : String :=
  start ++ "_" ++ rest

/-- The group is read: the last value of its marker is neither empty nor the key of a
toggle. -/
def IsRead (form : Form) (key : String) : Prop :=
  exists last, form.last? key = some last ∧ last ≠ "" ∧
    ¬ toggleSuffix.toList <:+ last.toList

/-- The values of a filter that are not blank: those of its short key if there are any, and
those of its full key if not. -/
def filledFor (form : Form) (key number name : String) : List String :=
  match form.filledValues (keyUnder number name) with
  | [] => form.filledValues (keyUnder key name)
  | values => values

variable {form : Form} {catalog : Catalog} {key number name : String}

theorem listed?_of_isRead (hnumber : number? key = some number) (h : IsRead form key) :
    listed? form key = some number := by
  rcases h with ⟨last, hlast, hne, hsuffix⟩
  have hempty : last.isEmpty = false := by
    simpa [String.isEmpty_iff] using hne
  have hends : Text.endsWith toggleSuffix.toList last.toList = false := by
    rw [Text.endsWith, ← Bool.not_eq_true, List.isSuffixOf_iff_suffix]
    exact hsuffix
  rw [listed?, hnumber, hlast]
  simp [hempty, hends]

theorem prefixOf_eq (form : Form) (key number name : String) :
    prefixOf form key number name =
      if form.has (keyUnder number name) then number else key := rfl

theorem item?_of_mem {names : List String} {items : List FilterItem}
    (h : itemsOf form catalog key number names = .ok items) (hname : name ∈ names) :
    exists found, item? form catalog key number name = .ok found ∧ found.toList ⊆ items := by
  induction names generalizing items with
  | nil =>
      cases hname
  | cons first names ih =>
      unfold itemsOf at h
      rcases bind_eq_ok.mp h with ⟨found, hfound, h⟩
      rcases bind_eq_ok.mp h with ⟨rest, hrest, h⟩
      cases h
      rcases List.mem_cons.mp hname with rfl | hname
      · exact ⟨found, hfound, List.subset_append_left _ _⟩
      · rcases ih hrest hname with ⟨other, hother, hsubset⟩
        exact ⟨other, hother, List.Subset.trans hsubset (List.subset_append_right _ _)⟩

theorem itemsOf_of_mem {keys : List String} {groups : List FilterGroup}
    (h : ofKeys form catalog keys = .ok groups) (hkey : key ∈ keys)
    (hlisted : listed? form key = some number) :
    exists items, itemsOf form catalog key number (form.values key) = .ok items ∧
      ⟨key, items⟩ ∈ groups := by
  induction keys generalizing groups with
  | nil =>
      cases hkey
  | cons first keys ih =>
      unfold ofKeys at h
      cases hfirst : listed? form first with
      | none =>
          rw [hfirst] at h
          rcases List.mem_cons.mp hkey with rfl | hkey
          · rw [hfirst] at hlisted
            cases hlisted
          · exact ih h hkey
      | some digits =>
          rw [hfirst] at h
          rcases bind_eq_ok.mp h with ⟨items, hitems, h⟩
          rcases bind_eq_ok.mp h with ⟨rest, hrest, h⟩
          cases h
          rcases List.mem_cons.mp hkey with rfl | hkey
          · rw [hfirst] at hlisted
            cases hlisted
            exact ⟨items, hitems, List.mem_cons_self⟩
          · rcases ih hrest hkey with ⟨others, hothers, hmem⟩
            exact ⟨others, hothers, List.mem_cons_of_mem _ hmem⟩

theorem item?_eq_ok {found : Option FilterItem} (hfilter : catalog.isCompanion name = false)
    (hvalues : form.filledValues (keyUnder (prefixOf form key number name) name) ≠ [])
    (h : item? form catalog key number name = .ok found) :
    exists item, found = some item ∧ item.name = name ∧
      item.values = form.filledValues (keyUnder (prefixOf form key number name) name) := by
  unfold item? at h
  unfold keyUnder at hvalues ⊢
  rw [hfilter, if_neg Bool.false_ne_true] at h
  dsimp only at h
  rw [if_neg (by rwa [List.isEmpty_iff])] at h
  cases hspec : catalog.get? name with
  | none =>
      rw [hspec] at h
      cases h
  | some spec =>
      rw [hspec] at h
      cases h
      exact ⟨_, rfl, rfl, rfl⟩

/-- Where the short key has a value, or does not occur at all, no filled value is left
out. -/
theorem filledValues_prefixOf
    (h : form.Carries (keyUnder number name) ∨
      form.has (keyUnder number name) = false ∧ form.Carries (keyUnder key name)) :
    form.filledValues (keyUnder (prefixOf form key number name) name) =
        filledFor form key number name ∧
      filledFor form key number name ≠ [] := by
  rw [prefixOf_eq, filledFor]
  rcases h with hshort | ⟨habsent, hfull⟩
  · have hfilled := (form.filledValues_ne_nil_iff _).mpr hshort
    rw [hshort.has, if_pos rfl]
    cases hvalues : form.filledValues (keyUnder number name) with
    | nil =>
        exact absurd hvalues hfilled
    | cons value values =>
        exact ⟨rfl, List.cons_ne_nil _ _⟩
  · have hnone : form.filledValues (keyUnder number name) = [] := by
      rw [Form.filledValues, (form.has_eq_false_iff _).mp habsent]
      rfl
    rw [habsent, if_neg Bool.false_ne_true, hnone]
    exact ⟨rfl, (form.filledValues_ne_nil_iff _).mpr hfull⟩

/--
In a group that is read every listed filter with a value is kept, with all its values that
are not blank.  The short key of the filter is the one that counts if it occurs.
-/
theorem listed_filter_is_kept {groups : List FilterGroup}
    (hgroups : ofForm form catalog = .ok groups) (hnumber : number? key = some number)
    (hread : IsRead form key) (hname : name ∈ form.values key)
    (hfilter : catalog.isCompanion name = false)
    (hvalues : form.Carries (keyUnder number name) ∨
      form.has (keyUnder number name) = false ∧ form.Carries (keyUnder key name)) :
    exists group, group ∈ groups ∧ group.key = key ∧
      exists item, item ∈ group.items ∧ item.name = name ∧
        item.values = filledFor form key number name := by
  have hlisted := listed?_of_isRead hnumber hread
  rcases hread with ⟨last, hlast, _⟩
  have hkey : key ∈ form.keys := Form.mem_keys_of_last? hlast
  rcases itemsOf_of_mem hgroups hkey hlisted with ⟨items, hitems, hgroup⟩
  rcases item?_of_mem hitems hname with ⟨found, hfound, hsubset⟩
  rcases filledValues_prefixOf hvalues with ⟨hfilled, hne⟩
  rcases item?_eq_ok hfilter (by rwa [hfilled]) hfound with ⟨item, rfl, hitem, hmade⟩
  rw [hfilled] at hmade
  exact ⟨⟨key, items⟩, hgroup, rfl, item, hsubset (List.mem_singleton.mpr rfl), hitem, hmade⟩

/-- Two countries between blank fields; the full key is left aside. -/
def scatteredCountries : Form :=
  ⟨[("include:7", ""), ("7_country", ""), ("include:7", "country"), ("7_country", "US"),
    ("include:7_country", "MX"), ("7_country", " "), ("7_country", "CA")]⟩

theorem listed_filter_is_kept_scattered :
    exists groups, ofForm scatteredCountries .standard = .ok groups ∧
      number? "include:7" = some "7" ∧ IsRead scatteredCountries "include:7" ∧
      "country" ∈ scatteredCountries.values "include:7" ∧
      Catalog.standard.isCompanion "country" = false ∧
      scatteredCountries.Carries (keyUnder "7" "country") ∧
      exists group, group ∈ groups ∧ group.key = "include:7" ∧
        exists item, item ∈ group.items ∧ item.name = "country" ∧
          item.values = ["US", "CA"] := by
  have hread : IsRead scatteredCountries "include:7" :=
    ⟨"country", rfl, by decide, by decide⟩
  have hname : "country" ∈ scatteredCountries.values "include:7" := by decide
  have hcarries : scatteredCountries.Carries (keyUnder "7" "country") :=
    ⟨"US", by decide, by decide⟩
  have hkept := listed_filter_is_kept (rfl : ofForm scatteredCountries .standard = .ok _)
    rfl hread hname rfl (Or.inl hcarries)
  exact ⟨_, rfl, rfl, hread, hname, rfl, hcarries, hkept⟩

/-- A country whose marker is followed by a blank field. -/
def blankMarkerLast : Form :=
  ⟨[("include:1", "country"), ("include:1", ""), ("1_country", "US")]⟩

/-- A country under the full key with a blank field under the short one. -/
def blankShortKey : Form :=
  ⟨[("include:1", "country"), ("1_country", ""), ("include:1_country", "US")]⟩

/-- A blank field behind the marker or under the short key takes a filter with a value out
of the request. -/
theorem blank_field_hides_filter :
    (number? "include:1" = some "1" ∧ Text.blank "country" = false ∧
      Catalog.standard.isCompanion "country" = false ∧
      ¬ toggleSuffix.toList <:+ "country".toList) ∧
    ("country" ∈ blankMarkerLast.values "include:1" ∧
      blankMarkerLast.Carries (keyUnder "1" "country") ∧
      ofForm blankMarkerLast .standard = .ok []) ∧
    "country" ∈ blankShortKey.values "include:1" ∧
      blankShortKey.Carries (keyUnder "include:1" "country") ∧
      ofForm blankShortKey .standard = .ok [⟨"include:1", []⟩] := by
  refine ⟨⟨rfl, by decide, rfl, by decide⟩, ⟨by decide, ⟨"US", by decide, by decide⟩, rfl⟩,
    by decide, ⟨"US", by decide, by decide⟩, rfl⟩

end FilterGroup
end Audience
