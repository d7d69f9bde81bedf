import Audience.Proofs.ReadFilters

/-!
# Names of companions

## The first mark of a text

A text is cut at the first occurrence of a mark.  An earlier one would lie within what stands
before the cut together with all but the last character of the mark.
-/

namespace Audience
namespace Text

variable {mark before after : List Char}

@[simp] theorem dropStart?_append (mark after : List Char) :
    dropStart? mark (mark ++ after) = some after := by
  rw [dropStart?, if_pos (List.isPrefixOf_iff_prefix.mpr (List.prefix_append mark after)),
    List.drop_left]

private theorem dropStart?_eq_none {s : List Char} (h : ¬ mark <+: s) :
    dropStart? mark s = none := by
  rw [dropStart?, if_neg (mt List.isPrefixOf_iff_prefix.mp h)]

/-- Where a mark that follows begins is not told by its last character. -/
theorem prefix_before_mark_iff (hbefore : before ≠ []) :
    mark <+: before ++ mark ++ after <-> mark <+: before ++ mark.dropLast := by
  have hwithin : before ++ mark.dropLast <+: before ++ mark ++ after :=
    ((List.prefix_append_right_inj before).mpr (List.dropLast_prefix mark)).trans
      (List.prefix_append _ after)
  constructor
  · intro h
    apply List.prefix_of_prefix_length_le h hwithin
    have hpositive := List.length_pos_iff.mpr hbefore
    rw [List.length_append, List.length_dropLast]
    omega
  · intro h
    exact h.trans hwithin

theorem cutAt?_append_iff (hmark : mark ≠ []) (before after : List Char) :
    cutAt? mark (before ++ mark ++ after) = some (before, after) <->
      ¬ mark <:+: before ++ mark.dropLast := by
  induction before with
  | nil =>
      apply iff_of_true
      · have hdrop := dropStart?_append mark after
        cases mark with
        | nil =>
            exact absurd rfl hmark
        | cons m mark =>
            rw [List.nil_append, List.cons_append, cutAt?, ← List.cons_append, hdrop]
      · intro hinfix
        have hlength := hinfix.length_le
        have hpositive := List.length_pos_iff.mpr hmark
        rw [List.nil_append, List.length_dropLast] at hlength
        omega
  | cons c before ih =>
      have hlater : mark <:+: c :: before ++ mark.dropLast <->
          mark <+: c :: before ++ mark ++ after ∨ mark <:+: before ++ mark.dropLast := by
        rw [prefix_before_mark_iff (List.cons_ne_nil c before)]
        exact List.infix_cons_iff
      rw [hlater, not_or, ← ih]
      by_cases hprefix : mark <+: c :: before ++ mark ++ after
      · have hhere : dropStart? mark (c :: before ++ mark ++ after) ≠ none := by
          rw [dropStart?, if_pos (List.isPrefixOf_iff_prefix.mpr hprefix)]
          exact Option.some_ne_none _
        apply iff_of_false _ fun h => h.left hprefix
        rw [List.cons_append, List.cons_append] at hhere ⊢
        rw [cutAt?]
        split
        · simp
        · rename_i hnone
          exact absurd hnone hhere
      · have hnone := dropStart?_eq_none hprefix
        rw [and_iff_right hprefix]
        rw [List.cons_append, List.cons_append] at hnone ⊢
        rw [cutAt?, hnone]
        simp

theorem cutString?_append_iff {mark : String} (hmark : mark.toList ≠ [])
    (before after : String) :
    cutString? mark (before ++ mark ++ after) = some (before, after) <->
      ¬ mark.toList <:+: before.toList ++ mark.toList.dropLast := by
  rw [← cutAt?_append_iff hmark before.toList after.toList, cutString?, String.toList_append,
    String.toList_append]
  constructor
  · intro h
    rcases Option.map_eq_some_iff.mp h with ⟨⟨front, behind⟩, hcut, heq⟩
    cases heq
    rwa [String.toList_ofList, String.toList_ofList] at hcut ⊢
  · intro h
    rw [h]
    simp

end Text

/-!
## Declared companions

A name that holds the mark of companions, or ends in the first half of one, hides the mark
behind it.
-/

namespace Catalog

def Declares (catalog : Catalog) (primary companion : String) : Prop :=
  exists spec, catalog.get? primary = some spec ∧ companion ∈ spec.companions

/-- The first mark behind the name is the one that follows it. -/
def IsPlain (name : String) : Prop :=
  ¬ companionMark.toList <:+: name.toList ∧ ¬ ['_'] <:+ name.toList

instance (name : String) : Decidable (IsPlain name) :=
  inferInstanceAs (Decidable (_ ∧ _))

theorem isPlain_iff (name : String) :
    IsPlain name <-> ¬ companionMark.toList <:+: name.toList ++ companionMark.toList.dropLast := by
  have hmark : companionMark.toList = ['_'] ++ ['_'] := rfl
  have hend : ['_'] ++ ['_'] <:+ name.toList ++ ['_'] <-> ['_'] <:+ name.toList := by
    constructor
    · intro h
      rcases h with ⟨front, h⟩
      rw [← List.append_assoc] at h
      exact ⟨front, List.append_cancel_right h⟩
    · intro h
      rcases h with ⟨front, h⟩
      exact ⟨front, by rw [← List.append_assoc, h]⟩
  rw [IsPlain, hmark, List.dropLast_concat, List.infix_concat_iff, hend, not_or, and_comm]

theorem cutString?_companion_iff (primary companion : String) :
    Text.cutString? companionMark (primary ++ companionMark ++ companion) =
      some (primary, companion) <-> IsPlain primary := by
  rw [isPlain_iff]
  exact Text.cutString?_append_iff (by decide) primary companion

/-- A name is passed over as a companion exactly if it is that of a declared companion of a
filter with a plain name. -/
theorem isCompanion_iff {catalog : Catalog} {name : String} :
    catalog.isCompanion name = true <->
      exists primary companion, catalog.Declares primary companion ∧ IsPlain primary ∧
        name = primary ++ companionMark ++ companion := by
  unfold isCompanion
  constructor
  · intro h
    split at h
    · rename_i primary companion hcut
      split at h
      · rename_i spec hspec
        have hname := Text.cutString?_eq_some hcut
        rw [hname] at hcut
        exact ⟨primary, companion, ⟨spec, hspec, List.contains_iff_mem.mp h⟩,
          (cutString?_companion_iff primary companion).mp hcut, hname⟩
      · cases h
    · cases h
  · intro h
    rcases h with ⟨primary, companion, ⟨spec, hspec, hcompanion⟩, hplain, rfl⟩
    rw [(cutString?_companion_iff primary companion).mpr hplain]
    dsimp only
    rw [hspec]
    exact List.contains_iff_mem.mpr hcompanion

end Catalog

/-!
## Names taken for filters

A listed name with values is either passed over as a companion, or becomes a filter, or has
the form refused because the catalog does not know it.
-/

namespace FilterGroup

/-- The form makes a filter of the name, or is refused because it names no filter. -/
inductive TakesForFilter (form : Form) (catalog : Catalog) : String -> Prop where
  | read {groups : List FilterGroup} {group : FilterGroup} {item : FilterItem}
      (hgroups : ofForm form catalog = .ok groups) (hgroup : group ∈ groups)
      (hitem : item ∈ group.items) : TakesForFilter form catalog item.name
  | refused {name : String} (h : ofForm form catalog = .error (.unknownFilter name)) :
      TakesForFilter form catalog name

variable {form : Form} {catalog : Catalog} {name : String}

theorem TakesForFilter.isCompanion_eq_false (h : TakesForFilter form catalog name) :
    catalog.isCompanion name = false := by
  cases h with
  | read hgroups hgroup hitem =>
      rcases exists_gives_of_mem hgroups hgroup hitem with ⟨listing, _, _, hgives⟩
      rw [hgives.name]
      exact hgives.filter
  | refused h =>
      rcases exists_listing_of_error h with ⟨listing, _, hfilter, _, _, hcause⟩
      cases hcause
      exact hfilter

/-- One group that lists the name, with a value for this name alone. -/
def asking (name : String) : Form :=
  ⟨[("include:1", name), ("include:1", "x"), (keyUnder "1" name, "x")]⟩

theorem key_of_values_asking {key : String} (h : (asking name).values key ≠ []) :
    key = "include:1" ∨ key = keyUnder "1" name := by
  by_contra hother
  rw [not_or] at hother
  apply h
  simp [asking, Form.values, Ne.symm hother.left, Ne.symm hother.right]

theorem values_asking_marker (name : String) :
    (asking name).values "include:1" = [name, "x"] := by
  have hne : keyUnder "1" name ≠ "include:1" := by
    intro heq
    have hnumber := number?_keyUnder "1" name
    rw [heq] at hnumber
    cases hnumber
  simp [asking, Form.values, hne]

theorem values_asking_name (name : String) :
    (asking name).values (keyUnder "1" name) = ["x"] := by
  have hne : "include:1" ≠ keyUnder "1" name := by
    intro heq
    have hnumber := number?_keyUnder "1" name
    rw [← heq] at hnumber
    cases hnumber
  simp [asking, Form.values, hne]

private theorem listed?_asking (name : String) : listed? (asking name) "include:1" = some "1" := by
  apply listed?_of_isRead rfl
  refine ⟨"x", ?_, by decide, by decide⟩
  rw [Form.last?, values_asking_marker]
  rfl

private theorem name_of_listings_asking {listing : Listing}
    (hlisting : listing ∈ listings (asking name))
    (hvalues : listing.filledValues (asking name) ≠ []) : listing.name = name := by
  rcases mem_listings_iff.mp hlisting with ⟨hlisted, hname⟩
  have hnumber := (listed?_eq_some.mp hlisted).left
  have hkey : listing.key = "include:1" := by
    rcases key_of_values_asking (List.ne_nil_of_mem hname) with hkey | hkey
    · exact hkey
    · rw [hkey, number?_keyUnder] at hnumber
      cases hnumber
  have hone : listing.number = "1" := by
    rw [hkey] at hnumber
    exact (Option.some.inj hnumber).symm
  have hcarries : (asking name).values (keyUnder (listing.start (asking name)) listing.name) ≠ [] :=
    fun hnil => hvalues (by rw [Listing.filledValues, Form.filledValues, hnil]; rfl)
  rcases key_of_values_asking hcarries with hmarker | hsame
  · have hnone := number?_keyUnder (listing.start (asking name)) listing.name
    rw [hmarker] at hnone
    cases hnone
  · rw [Listing.start, prefixOf_eq, hone, hkey] at hsame
    split at hsame
    · rw [← String.toList_inj] at hsame ⊢
      simpa [keyUnder] using hsame
    · have hshort := isShort_keyUnder (rfl : number? "include:1" = some "1") name
      exact absurd hsame (hshort.ne_marked (keyUnder "1" listing.name))

private theorem takesForFilter_asking (h : catalog.isCompanion name = false) :
    TakesForFilter (asking name) catalog name := by
  cases hread : ofForm (asking name) catalog with
  | ok groups =>
      have hkey : "include:1" ∈ (asking name).keys := by
        rcases listed?_eq_some.mp (listed?_asking name) with ⟨_, last, hlast, _⟩
        exact Form.mem_keys_of_last? hlast
      rcases itemsOf_of_mem hread hkey (listed?_asking name) with ⟨items, hitems, hgroup⟩
      have hname : name ∈ (asking name).values "include:1" := by
        rw [values_asking_marker]
        exact List.mem_cons_self
      rcases item?_of_mem hitems hname with ⟨found, hfound, hsubset⟩
      have hcarries : (asking name).Carries (keyUnder "1" name) :=
        ⟨"x", by rw [values_asking_name]; exact List.mem_cons_self, by decide⟩
      rcases filledValues_prefixOf (Or.inl hcarries) with ⟨hfilled, hne⟩
      rcases item?_eq_ok h (by rwa [hfilled]) hfound with ⟨item, rfl, rfl, _⟩
      exact .read hread hgroup (hsubset (List.mem_singleton.mpr rfl))
  | error cause =>
      rcases exists_listing_of_error hread with ⟨listing, hlisting, _, hvalues, _, rfl⟩
      rw [name_of_listings_asking hlisting hvalues] at hread
      exact .refused hread

/--
A name is never taken for a filter, whatever the form, exactly if it is that of a declared
companion of a filter with a plain name.  So where every filter that declares a companion has
a plain name, no companion is ever a filter of its own.
-/
theorem companions_are_no_filters (catalog : Catalog) :
    (forall name, (forall form, ¬ TakesForFilter form catalog name) <->
      exists primary companion, catalog.Declares primary companion ∧ Catalog.IsPlain primary ∧
        name = primary ++ companionMark ++ companion) ∧
    ((forall primary companion, catalog.Declares primary companion -> Catalog.IsPlain primary) ->
      forall form primary companion, catalog.Declares primary companion ->
        ¬ TakesForFilter form catalog (primary ++ companionMark ++ companion)) := by
  have hexact (name : String) : (forall form, ¬ TakesForFilter form catalog name) <->
      catalog.isCompanion name = true := by
    constructor
    · intro hnever
      by_contra hfilter
      rw [Bool.not_eq_true] at hfilter
      exact hnever (asking name) (takesForFilter_asking hfilter)
    · intro hcompanion form htakes
      rw [htakes.isCompanion_eq_false] at hcompanion
      cases hcompanion
  refine ⟨fun name => (hexact name).trans Catalog.isCompanion_iff, ?_⟩
  intro hplain form primary companion hdeclares
  exact (hexact _).mpr
    (Catalog.isCompanion_iff.mpr ⟨primary, companion, hdeclares, hplain _ _ hdeclares, rfl⟩) form

theorem companions_are_no_filters_standard :
    (forall primary companion, Catalog.standard.Declares primary companion ->
      Catalog.IsPlain primary) ∧
    Catalog.standard.Declares "zipcode" "distance" ∧
    forall form, ¬ TakesForFilter form .standard "zipcode__distance" := by
  have hplain : forall primary companion, Catalog.standard.Declares primary companion ->
      Catalog.IsPlain primary := by
    intro primary companion h
    rcases h with ⟨spec, hspec, _⟩
    rcases Catalog.mem_specs_of_get? hspec with ⟨hmem, rfl⟩
    have hall : forall spec, spec ∈ Catalog.standard.specs -> Catalog.IsPlain spec.name := by
      decide +kernel
    exact hall spec hmem
  have hdistance : Catalog.standard.Declares "zipcode" "distance" :=
    ⟨_, rfl, List.mem_singleton.mpr rfl⟩
  exact ⟨hplain, hdistance, fun form =>
    (companions_are_no_filters .standard).right hplain form "zipcode" "distance" hdistance⟩

def markedZip : FilterSpec :=
  Catalog.ofBuilder "zip__code" .postalRadius [distanceCompanion]

def distanceAlone : Form :=
  ⟨[("include:1", "zip__code__distance"), ("1_zip__code__distance", "25")]⟩

/-- A declared companion is refused as an unknown filter, or becomes a filter if the catalog
has one of its name. -/
theorem companion_is_taken_for_filter :
    "zip__code" ++ companionMark ++ distanceCompanion = "zip__code__distance" ∧
    (Catalog.Declares ⟨[markedZip]⟩ "zip__code" distanceCompanion ∧
      ofForm distanceAlone ⟨[markedZip]⟩ = .error (.unknownFilter "zip__code__distance")) ∧
    Catalog.Declares ⟨[markedZip, Catalog.ofColumn "zip__code__distance" .zip]⟩ "zip__code"
        distanceCompanion ∧
      ofForm distanceAlone ⟨[markedZip, Catalog.ofColumn "zip__code__distance" .zip]⟩ =
        .ok [⟨"include:1", [⟨"zip__code__distance", ["25"], true, []⟩]⟩] := by
  have hdistance : distanceCompanion ∈ markedZip.companions := List.mem_singleton.mpr rfl
  exact ⟨rfl, ⟨⟨markedZip, rfl, hdistance⟩, rfl⟩, ⟨markedZip, rfl, hdistance⟩, rfl⟩

end FilterGroup
end Audience
