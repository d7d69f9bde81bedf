import Audience.Proofs.FirstOccurrences
import Audience.Proofs.GroupReading
import Audience.Proofs.TurnedRequests

/-!
# Two spellings of a key

## Forms with other spellings

What a form says about a filter may stand under short keys, which begin with the number of
the group, or under full keys, which begin with its marker.  One look at the values of the
filter decides which keys are read.  So a key may be spelled either way as long as it stays
beside the values that it belongs to, or apart from them.
-/

namespace Audience

namespace Form

open FilterGroup (marker)

variable {form : Form} {chosen : String -> Bool} {key : String}

/-- The key with the marker of groups in front of it if it is one of the chosen. -/
def respelledKey (chosen : String -> Bool) (key : String) : String :=
  if chosen key then marker ++ key else key

def respelled (form : Form) (chosen : String -> Bool) : Form :=
  ⟨form.pairs.map fun field => (respelledKey chosen field.1, field.2)⟩

theorem values_respelled_eq (form : Form) (chosen : String -> Bool) (key : String) :
    (form.respelled chosen).values key =
      (form.pairs.filter fun field => respelledKey chosen field.1 == key).map Prod.snd := by
  rw [respelled, values, List.filter_map, List.map_map]
  rfl

theorem values_eq_nil_iff (form : Form) (key : String) :
    form.values key = [] <-> forall field, field ∈ form.pairs -> field.1 ≠ key := by
  simp [values, List.filter_eq_nil_iff]

theorem values_respelled_of_chosen (hchosen : chosen key = true)
    (hshort : forall old, chosen old = true -> marker ++ old ≠ key) :
    (form.respelled chosen).values key = [] := by
  rw [values_eq_nil_iff]
  intro field hfield
  rcases List.mem_map.mp hfield with ⟨old, _, rfl⟩
  dsimp only
  rw [respelledKey]
  split
  · rename_i hold
    exact hshort old.1 hold
  · rename_i hold
    intro heq
    rw [heq] at hold
    exact hold hchosen

theorem values_respelled_of_kept (hkept : chosen key = false)
    (hshort : forall old, chosen old = true -> marker ++ old ≠ key) :
    (form.respelled chosen).values key = form.values key := by
  rw [values_respelled_eq, values]
  congr 1
  apply List.filter_congr
  intro field _
  rw [respelledKey]
  split
  · rename_i hold
    have hne : field.1 ≠ key := by
      intro heq
      rw [heq, hkept] at hold
      cases hold
    rw [beq_eq_false_iff_ne.mpr hne, beq_eq_false_iff_ne.mpr (hshort field.1 hold)]
  · rfl

theorem respelledKey_eq_full_iff {old : String}
    (hfull : chosen (marker ++ key) = false) :
    respelledKey chosen old = marker ++ key <->
      chosen key = true ∧ old = key ∨ old = marker ++ key := by
  rw [respelledKey]
  split
  · rename_i hold
    have hne : old ≠ marker ++ key := by
      intro heq
      rw [heq, hfull] at hold
      cases hold
    constructor
    · intro h
      have heq : old = key := String.append_right_inj _ |>.mp h
      exact Or.inl ⟨heq ▸ hold, heq⟩
    · intro h
      rcases h with ⟨_, rfl⟩ | h
      · rfl
      · exact absurd h hne
  · rename_i hold
    constructor
    · exact Or.inr
    · intro h
      rcases h with ⟨hkey, rfl⟩ | h
      · exact absurd hkey hold
      · exact h

theorem values_respelled_full (hfull : chosen (marker ++ key) = false)
    (halone : form.has key = true -> form.has (marker ++ key) = false) :
    (form.respelled chosen).values (marker ++ key) =
      (if chosen key then form.values key else []) ++
        form.values (marker ++ key) := by
  have hwanted : forall field : String × String,
      (respelledKey chosen field.1 == marker ++ key) =
        (chosen key && field.1 == key || field.1 == marker ++ key) := by
    intro field
    rw [Bool.eq_iff_iff]
    simpa using respelledKey_eq_full_iff hfull
  rw [values_respelled_eq]
  simp only [hwanted]
  cases hchosen : chosen key with
  | false =>
      simp [values]
  | true =>
      cases hhas : form.has key with
      | false =>
          have hnone := (form.has_eq_false_iff key).mp hhas
          rw [hnone]
          rw [values_eq_nil_iff] at hnone
          rw [if_pos rfl, List.nil_append, values]
          congr 1
          apply List.filter_congr
          intro field hfield
          simp [hnone field hfield]
      | true =>
          have hnone := (form.has_eq_false_iff _).mp (halone hhas)
          rw [hnone]
          rw [values_eq_nil_iff] at hnone
          rw [if_pos rfl, List.append_nil, values]
          congr 1
          apply List.filter_congr
          intro field hfield
          simp [hnone field hfield]

end Form

namespace FilterGroup

/-!
## Keys of groups and keys of filters

No key of a filter is the marker of a group, and no short key begins like a marker.
-/

theorem number?_eq_some {key number : String} (h : number? key = some number) :
    key = marker ++ number ∧ number.toList ≠ [] ∧
      forall c, c ∈ number.toList -> Text.isDecimalDigit c = true := by
  unfold number? at h
  split at h
  · rename_i digits hdigits
    split at h
    · rename_i hnumber
      rw [Bool.and_eq_true, Bool.not_eq_true', List.isEmpty_eq_false_iff] at hnumber
      cases h
      rw [String.toList_ofList]
      refine ⟨?_, hnumber.left, List.all_eq_true.mp hnumber.right⟩
      rw [← String.toList_inj, String.toList_append, String.toList_ofList]
      exact Text.dropStart?_eq_some hdigits
    · cases h
  · cases h

theorem number?_of_underscore {key : String} (h : '_' ∈ key.toList) : number? key = none := by
  cases hnumber : number? key with
  | none =>
      rfl
  | some number =>
      rcases number?_eq_some hnumber with ⟨rfl, _, hdigits⟩
      rw [String.toList_append, List.mem_append] at h
      rcases h with h | h
      · exact absurd h (by decide)
      · exact absurd (hdigits '_' h) (by decide)

@[simp] theorem number?_keyUnder (start rest : String) : number? (keyUnder start rest) = none := by
  apply number?_of_underscore
  simp [keyUnder]

/-- The key begins with the number of a group and not with its marker. -/
def IsShort (key : String) : Prop :=
  exists marked number rest, number? marked = some number ∧ key = keyUnder number rest

variable {key number name rest ending : String}

theorem isShort_keyUnder (hnumber : number? key = some number) (rest : String) :
    IsShort (keyUnder number rest) :=
  ⟨key, number, rest, hnumber, rfl⟩

theorem IsShort.number?_eq_none (h : IsShort key) : number? key = none := by
  rcases h with ⟨_, number, rest, _, rfl⟩
  exact number?_keyUnder number rest

theorem IsShort.ne_marked (h : IsShort key) (old : String) : marker ++ old ≠ key := by
  intro heq
  rcases h with ⟨_, number, rest, hnumber, rfl⟩
  rcases number?_eq_some hnumber with ⟨_, hne, hdigits⟩
  cases hlist : number.toList with
  | nil =>
      exact hne hlist
  | cons digit digits =>
      have hhead := congrArg (fun key => key.toList.head?) heq
      simp [keyUnder, hlist, marker] at hhead
      have hdigit := hdigits digit (by rw [hlist]; exact List.mem_cons_self)
      rw [← hhead] at hdigit
      exact absurd hdigit (by decide)

theorem IsShort.number?_marked (h : IsShort key) : number? (marker ++ key) = none := by
  rcases h with ⟨_, number, rest, _, rfl⟩
  apply number?_of_underscore
  simp [keyUnder]

theorem keyUnder_full (hnumber : number? key = some number) (rest : String) :
    keyUnder key rest = marker ++ keyUnder number rest := by
  rw [(number?_eq_some hnumber).left]
  simp only [keyUnder, String.append_assoc]

/-!
## What is read of a filter
-/

def said (form : Form) (key number rest : String) : List String :=
  form.values (keyUnder number rest) ++ form.values (keyUnder key rest)

/-- Only one of the spellings occurs. -/
def Alone (form : Form) (key number rest : String) : Prop :=
  form.has (keyUnder number rest) = true -> form.has (keyUnder key rest) = false

/-- What stands behind the name of a filter has the spelling of its values. -/
def beside (form : Form) (key number name ending : String) : Bool :=
  form.has (keyUnder number name) && form.has (keyUnder number (name ++ ending)) ||
    form.has (keyUnder key name) && form.has (keyUnder key (name ++ ending))

def endings (catalog : Catalog) (name : String) : List String :=
  toggleSuffix ::
    match catalog.get? name with
    | some spec => spec.companions.map (companionMark ++ ·)
    | none => []

variable {form other : Form} {catalog : Catalog}

theorem values_prefixOf (halone : Alone form key number name) :
    form.values (keyUnder (prefixOf form key number name) name) =
      said form key number name := by
  rw [prefixOf_eq, said]
  cases hshort : form.has (keyUnder number name) with
  | false =>
      rw [(form.has_eq_false_iff _).mp hshort]
      rfl
  | true =>
      rw [(form.has_eq_false_iff _).mp (halone hshort), List.append_nil]
      rfl

theorem values_behind (hname : Alone form key number name)
    (hending : Alone form key number (name ++ ending)) (hsaid : said form key number name ≠ []) :
    form.values (keyUnder (prefixOf form key number name) (name ++ ending)) =
      if beside form key number name ending then said form key number (name ++ ending)
      else [] := by
  rw [prefixOf_eq, said, beside]
  cases hshort : form.has (keyUnder number name) with
  | false =>
      have hfull : form.has (keyUnder key name) = true := by
        rw [← Bool.not_eq_false, form.has_eq_false_iff]
        rwa [said, (form.has_eq_false_iff _).mp hshort, List.nil_append] at hsaid
      rw [hfull, Bool.false_and, Bool.false_or, Bool.true_and, if_neg Bool.false_ne_true]
      cases hhere : form.has (keyUnder key (name ++ ending)) with
      | false =>
          rw [(form.has_eq_false_iff _).mp hhere, if_neg Bool.false_ne_true]
      | true =>
          have hthere : form.has (keyUnder number (name ++ ending)) = false := by
            rw [← Bool.not_eq_true]
            intro hboth
            rw [hending hboth] at hhere
            cases hhere
          rw [(form.has_eq_false_iff _).mp hthere, if_pos rfl, List.nil_append]
  | true =>
      rw [hname hshort, Bool.false_and, Bool.or_false, Bool.true_and, if_pos rfl]
      cases hhere : form.has (keyUnder number (name ++ ending)) with
      | false =>
          rw [(form.has_eq_false_iff _).mp hhere, if_neg Bool.false_ne_true]
      | true =>
          rw [(form.has_eq_false_iff _).mp (hending hhere), if_pos rfl, List.append_nil]

theorem companionsOf_congr {start begin : String} {spec : FilterSpec}
    (h : forall companion, companion ∈ spec.companions ->
      other.values (begin ++ (companionMark ++ companion)) =
        form.values (start ++ (companionMark ++ companion))) :
    companionsOf other begin spec = companionsOf form start spec := by
  unfold companionsOf Form.filled? Form.last?
  revert h
  induction spec.companions with
  | nil =>
      intro _
      rfl
  | cons companion companions ih =>
      intro h
      rw [List.forall_mem_cons] at h
      rw [List.filterMap_cons, List.filterMap_cons, ih h.right]
      simp only [String.append_assoc, h.left]

/-- What is read of a filter depends on the values of the filter and, if there are any, on
what stands behind its name. -/
theorem item?_congr
    (hvalues : other.values (keyUnder (prefixOf other key number name) name) =
      form.values (keyUnder (prefixOf form key number name) name))
    (hbehind : form.values (keyUnder (prefixOf form key number name) name) ≠ [] ->
      forall ending, ending ∈ endings catalog name ->
        other.values (keyUnder (prefixOf other key number name) name ++ ending) =
          form.values (keyUnder (prefixOf form key number name) name ++ ending)) :
    item? other catalog key number name = item? form catalog key number name := by
  unfold item?
  by_cases hcompanion : catalog.isCompanion name = true
  · rw [if_pos hcompanion, if_pos hcompanion]
  rw [if_neg hcompanion, if_neg hcompanion]
  unfold keyUnder at hvalues hbehind
  dsimp only
  generalize prefixOf form key number name ++ "_" ++ name = start at hvalues hbehind ⊢
  generalize prefixOf other key number name ++ "_" ++ name = begin at hvalues hbehind ⊢
  have hfilled : other.filledValues begin = form.filledValues start := by
    rw [Form.filledValues, Form.filledValues, hvalues]
  rw [hfilled]
  by_cases hempty : (form.filledValues start).isEmpty = true
  · rw [if_pos hempty, if_pos hempty]
  rw [if_neg hempty, if_neg hempty]
  have hne : form.values start ≠ [] := by
    intro hnil
    rw [Form.filledValues, hnil] at hempty
    exact hempty rfl
  cases hspec : catalog.get? name with
  | none =>
      rfl
  | some spec =>
      have hends : endings catalog name =
          toggleSuffix :: spec.companions.map (companionMark ++ ·) := by
        rw [endings, hspec]
      have htoggle : other.last? (begin ++ toggleSuffix) = form.last? (start ++ toggleSuffix) := by
        rw [Form.last?, Form.last?, hbehind hne _ (by rw [hends]; exact List.mem_cons_self)]
      have hcompanions : companionsOf other begin spec = companionsOf form start spec := by
        apply companionsOf_congr
        intro companion hmem
        apply hbehind hne
        rw [hends]
        exact List.mem_cons_of_mem _ (List.mem_map_of_mem hmem)
      dsimp only
      rw [htoggle, hcompanions]

/-- Each of the forms uses one spelling, and both say the same. -/
structure SaidAlike (form other : Form) (key number rest : String) : Prop where
  alone : Alone form key number rest
  aloneToo : Alone other key number rest
  same : said other key number rest = said form key number rest

theorem item?_of_saidAlike (hname : SaidAlike form other key number name)
    (hendings : forall ending, ending ∈ endings catalog name ->
      SaidAlike form other key number (name ++ ending) ∧
        beside other key number name ending = beside form key number name ending) :
    item? other catalog key number name = item? form catalog key number name := by
  apply item?_congr
  · rw [values_prefixOf hname.alone, values_prefixOf hname.aloneToo, hname.same]
  · intro hvalues ending hending
    rw [values_prefixOf hname.alone] at hvalues
    rcases hendings ending hending with ⟨hsaid, hbeside⟩
    have hhere := values_behind hname.alone hsaid.alone hvalues
    have hthere := values_behind hname.aloneToo hsaid.aloneToo (by rwa [hname.same])
    rw [keyUnder, ← String.append_assoc] at hhere hthere
    rw [keyUnder, keyUnder, hhere, hthere, hsaid.same, hbeside]

/-!
## Other spellings say the same
-/

variable {chosen : String -> Bool}

private theorem chosen_full (hchosen : forall key, chosen key = true -> IsShort key)
    (key : String) :
    chosen (marker ++ key) = false := by
  rw [← Bool.not_eq_true]
  intro h
  exact (hchosen _ h).ne_marked key rfl

private theorem values_respelled_short (hkey : IsShort key) (chosen : String -> Bool) :
    (form.respelled chosen).values key = if chosen key then [] else form.values key := by
  have hshort : forall old, chosen old = true -> marker ++ old ≠ key :=
    fun old _ => hkey.ne_marked old
  cases h : chosen key with
  | false =>
      exact Form.values_respelled_of_kept h hshort
  | true =>
      exact Form.values_respelled_of_chosen h hshort

private theorem values_respelled_under (hchosen : forall key, chosen key = true -> IsShort key)
    (hnumber : number? key = some number) (halone : Alone form key number rest) :
    (form.respelled chosen).values (keyUnder key rest) =
      (if chosen (keyUnder number rest) then form.values (keyUnder number rest) else []) ++
        form.values (keyUnder key rest) := by
  rw [Alone, keyUnder_full hnumber] at halone
  rw [keyUnder_full hnumber]
  exact Form.values_respelled_full (chosen_full hchosen _) halone

theorem saidAlike_respelled (hchosen : forall key, chosen key = true -> IsShort key)
    (hnumber : number? key = some number) (halone : Alone form key number rest) :
    SaidAlike form (form.respelled chosen) key number rest := by
  have hshort : (form.respelled chosen).values (keyUnder number rest) = _ :=
    values_respelled_short (isShort_keyUnder hnumber rest) chosen
  have hunder := values_respelled_under hchosen hnumber halone
  cases h : chosen (keyUnder number rest) with
  | false =>
      rw [h, if_neg Bool.false_ne_true] at hshort hunder
      rw [List.nil_append] at hunder
      refine ⟨halone, ?_, ?_⟩
      · intro hhas
        rw [← Bool.not_eq_false, Form.has_eq_false_iff, hshort, ← Form.has_eq_false_iff,
          Bool.not_eq_false] at hhas
        rw [Form.has_eq_false_iff, hunder, ← Form.has_eq_false_iff]
        exact halone hhas
      · rw [said, said, hshort, hunder]
  | true =>
      rw [h, if_pos rfl] at hshort hunder
      refine ⟨halone, ?_, ?_⟩
      · intro hhas
        rw [← Bool.not_eq_false, Form.has_eq_false_iff] at hhas
        exact absurd hshort hhas
      · rw [said, said, hshort, hunder]
        rfl

theorem values_respelled_marker (hchosen : forall key, chosen key = true -> IsShort key)
    (hnumber : number? key = some number) :
    (form.respelled chosen).values key = form.values key := by
  apply Form.values_respelled_of_kept
  · rw [← Bool.not_eq_true]
    intro h
    rw [(hchosen key h).number?_eq_none] at hnumber
    cases hnumber
  · intro old hold heq
    rw [← heq, (hchosen old hold).number?_marked] at hnumber
    cases hnumber

/-!
## Groups of both forms
-/

theorem itemsOf_congr {names : List String}
    (h : forall name, name ∈ names ->
      item? other catalog key number name = item? form catalog key number name) :
    itemsOf other catalog key number names = itemsOf form catalog key number names := by
  induction names with
  | nil =>
      rfl
  | cons name names ih =>
      rw [List.forall_mem_cons] at h
      rw [itemsOf, itemsOf, h.left, ih h.right]

theorem ofKeys_markers (form : Form) (catalog : Catalog) (keys : List String) :
    ofKeys form catalog (keys.filter fun key => (number? key).isSome) =
      ofKeys form catalog keys := by
  induction keys with
  | nil =>
      rfl
  | cons key keys ih =>
      cases hnumber : number? key with
      | none =>
          have hlisted : listed? form key = none := by
            rw [listed?, hnumber]
          rw [List.filter_cons_of_neg (by simp [hnumber]), ofKeys, hlisted, ih]
      | some number =>
          rw [List.filter_cons_of_pos (by simp [hnumber]), ofKeys, ofKeys, ih]

theorem ofKeys_congr {keys : List String}
    (h : forall key number, number? key = some number ->
      other.values key = form.values key ∧
        forall name, name ∈ form.values key ->
          item? other catalog key number name = item? form catalog key number name) :
    ofKeys other catalog keys = ofKeys form catalog keys := by
  induction keys with
  | nil =>
      rfl
  | cons key keys ih =>
      have hlisted : listed? other key = listed? form key := by
        rw [listed?, listed?]
        cases hnumber : number? key with
        | none =>
            rfl
        | some number =>
            rw [Form.last?, Form.last?, (h key number hnumber).left]
      rw [ofKeys, ofKeys, hlisted]
      cases hfound : listed? form key with
      | none =>
          exact ih
      | some number =>
          rcases h key number (number?_of_listed? hfound) with ⟨hvalues, hitems⟩
          dsimp only
          rw [hvalues, itemsOf_congr hitems, ih]

theorem keys_respelled (hchosen : forall key, chosen key = true -> IsShort key) :
    (form.respelled chosen).keys.filter (fun key => (number? key).isSome) =
      form.keys.filter fun key => (number? key).isSome := by
  rw [Form.keys, Form.keys, filter_eraseDups, filter_eraseDups, Form.respelled, List.map_map]
  congr 1
  induction form.pairs with
  | nil =>
      rfl
  | cons field fields ih =>
      rw [List.map_cons, List.map_cons, List.filter_cons, List.filter_cons, ih, Function.comp,
        Form.respelledKey]
      cases hfield : chosen field.1 with
      | false =>
          rfl
      | true =>
          have hshort := hchosen field.1 hfield
          simp [hshort.number?_eq_none, hshort.number?_marked]

/-!
## The groups of a form in other spellings
-/

instance (form : Form) (key number rest : String) : Decidable (Alone form key number rest) :=
  inferInstanceAs (Decidable (_ -> _))

/-- No key of a filter that is listed occurs in both spellings. -/
def OneSpelling (form : Form) (catalog : Catalog) : Prop :=
  forall field, field ∈ form.pairs -> forall number, number ∈ number? field.1 ->
    catalog.isCompanion field.2 = false ->
      Alone form field.1 number field.2 ∧
        forall ending, ending ∈ endings catalog field.2 ->
          Alone form field.1 number (field.2 ++ ending)

instance (form : Form) (catalog : Catalog) : Decidable (OneSpelling form catalog) :=
  inferInstanceAs (Decidable (forall field, field ∈ form.pairs -> _))

/-- No toggle and no companion is parted from the values of its filter, and none is joined
to them. -/
def KeepsBeside (form : Form) (catalog : Catalog) (chosen : String -> Bool) : Prop :=
  forall field, field ∈ form.pairs -> forall number, number ∈ number? field.1 ->
    catalog.isCompanion field.2 = false ->
      forall ending, ending ∈ endings catalog field.2 ->
        beside (form.respelled chosen) field.1 number field.2 ending =
          beside form field.1 number field.2 ending

instance (form : Form) (catalog : Catalog) (chosen : String -> Bool) :
    Decidable (KeepsBeside form catalog chosen) :=
  inferInstanceAs (Decidable (forall field, field ∈ form.pairs -> _))

/-- The groups of a form stay the same if keys of its filters are spelled the other way, and
toggles and companions stay beside the values of their filters, or apart from them. -/
theorem ofForm_respelled (hchosen : forall key, chosen key = true -> IsShort key)
    (hone : OneSpelling form catalog) (hkept : KeepsBeside form catalog chosen) :
    ofForm (form.respelled chosen) catalog = ofForm form catalog := by
  rw [ofForm, ofForm, ← ofKeys_markers, keys_respelled hchosen, ofKeys_markers]
  apply ofKeys_congr
  intro key number hnumber
  refine ⟨values_respelled_marker hchosen hnumber, ?_⟩
  intro name hname
  by_cases hcompanion : catalog.isCompanion name = true
  · rw [item?, item?, if_pos hcompanion, if_pos hcompanion]
  rw [Bool.not_eq_true] at hcompanion
  have hfield : (key, name) ∈ form.pairs := by
    simpa [Form.values] using hname
  rcases hone _ hfield number hnumber hcompanion with ⟨halone, hendings⟩
  have hbeside := hkept _ hfield number hnumber hcompanion
  apply item?_of_saidAlike (saidAlike_respelled hchosen hnumber halone)
  intro ending hending
  constructor
  · exact saidAlike_respelled hchosen hnumber (hendings ending hending)
  · exact hbeside ending hending

/-- Users that are not near a postal code, and users of a country whose toggle stands
apart. -/
def farFromNewYork : Form :=
  ⟨[("include:1", "zipcode"), ("include:1", "zipcode__distance"), ("1_zipcode", "10001"),
    ("1_zipcode__distance", "25"), ("1_zipcode_istoggle", "0"), ("include:2", "country"),
    ("2_country", "US"), ("include:2_country_istoggle", "0")]⟩

def zipcodeKeys (key : String) : Bool :=
  key ∈ ["1_zipcode", "1_zipcode__distance", "1_zipcode_istoggle"]

private theorem isShort_of_zipcodeKeys {key : String} (h : zipcodeKeys key = true) :
    IsShort key := by
  have hnumber : number? "include:1" = some "1" := rfl
  simp only [zipcodeKeys, List.mem_cons, List.not_mem_nil, or_false, decide_eq_true_eq] at h
  rcases h with rfl | rfl | rfl
  · exact isShort_keyUnder hnumber "zipcode"
  · exact isShort_keyUnder hnumber "zipcode__distance"
  · exact isShort_keyUnder hnumber "zipcode_istoggle"

theorem ofForm_respelled_farFromNewYork :
    (forall key, zipcodeKeys key = true -> IsShort key) ∧
      OneSpelling farFromNewYork .standard ∧
      KeepsBeside farFromNewYork .standard zipcodeKeys ∧
      ofForm (farFromNewYork.respelled zipcodeKeys) .standard =
        .ok [⟨"include:1", [⟨"zipcode", ["10001"], false, [("distance", "25")]⟩]⟩,
          ⟨"include:2", [⟨"country", ["US"], true, []⟩]⟩] := by
  have hchosen : forall key, zipcodeKeys key = true -> IsShort key :=
    fun _ => isShort_of_zipcodeKeys
  have hone : OneSpelling farFromNewYork .standard := by decide
  have hkept : KeepsBeside farFromNewYork .standard zipcodeKeys := by decide
  refine ⟨hchosen, hone, hkept, ?_⟩
  rw [ofForm_respelled hchosen hone hkept]
  rfl

def abroad : Form :=
  ⟨[("include:1", "country"), ("1_country", "US"), ("1_country_istoggle", "0")]⟩

/-- If either the values or the toggle are spelled the other way alone, then the toggle is
lost, and the filter asks for the users it was to leave out. -/
theorem respelled_toggle_is_lost :
    OneSpelling abroad .standard ∧
      ofForm abroad .standard = .ok [⟨"include:1", [⟨"country", ["US"], false, []⟩]⟩] ∧
      forall key, key ∈ ["1_country", "1_country_istoggle"] ->
        IsShort key ∧
          ofForm (abroad.respelled (· == key)) .standard =
            .ok [⟨"include:1", [⟨"country", ["US"], true, []⟩]⟩] := by
  have hnumber : number? "include:1" = some "1" := rfl
  refine ⟨by decide, rfl, ?_⟩
  intro key hkey
  simp only [List.mem_cons, List.not_mem_nil, or_false] at hkey
  rcases hkey with rfl | rfl
  · exact ⟨isShort_keyUnder hnumber "country", rfl⟩
  · exact ⟨isShort_keyUnder hnumber "country_istoggle", rfl⟩

end FilterGroup
end Audience
