import Audience.Proofs.Spellings

/-!
# Groups apart from each other

## First occurrences

A form lists the keys that occur in it in the order in which each of them occurs first.
-/

namespace Audience

namespace Form

def firstAt (form : Form) (key : String) : Nat :=
  (form.pairs.map Prod.fst).idxOf key

theorem keys_inOrder (form : Form) :
    form.keys.Pairwise fun key later => form.firstAt key < form.firstAt later :=
  pairwise_eraseDups _

theorem mem_keys_iff (form : Form) (key : String) :
    key ∈ form.keys <-> form.values key ≠ [] := by
  rw [Ne, values_eq_nil_iff, keys, List.mem_eraseDups, List.mem_map]
  simp

theorem values_perm {form other : Form} (h : other.pairs.Perm form.pairs) (key : String) :
    (other.values key).Perm (form.values key) :=
  (h.filter _).map _

theorem mem_keys_of_perm {form other : Form} (h : other.pairs.Perm form.pairs) {key : String}
    (hkey : key ∈ other.keys) :
    key ∈ form.keys := by
  rw [mem_keys_iff] at hkey ⊢
  intro hnil
  have hperm := values_perm h key
  rw [hnil] at hperm
  exact hkey hperm.eq_nil

theorem has_congr {form other : Form} {key : String} (h : other.values key = form.values key) :
    other.has key = form.has key := by
  rw [Bool.eq_iff_iff, ← Bool.not_eq_false, ← Bool.not_eq_false, has_eq_false_iff,
    has_eq_false_iff, h]

theorem values_eq_of_filter {form other : Form} (kind : String -> Bool) {key : String}
    (h : (other.pairs.filter fun field => kind field.1) =
      form.pairs.filter fun field => kind field.1)
    (hkey : kind key = true) :
    other.values key = form.values key := by
  have hkind : forall fields : List (String × String),
      ((fields.filter fun field => kind field.1).filter fun field => field.1 == key) =
        fields.filter fun field => field.1 == key := by
    intro fields
    rw [List.filter_filter]
    apply List.filter_congr
    intro field _
    cases hfield : field.1 == key with
    | false =>
        rfl
    | true =>
        rw [eq_of_beq hfield, hkey]
        rfl
  rw [values, values, ← hkind, h, hkind]

end Form

namespace FilterGroup

variable {form other : Form} {catalog : Catalog} {key number : String}

/-!
## What a group is read from
-/

/-- The key is the marker of the group or begins like the keys of its filters. -/
def isKeyOf (key number wanted : String) : Bool :=
  wanted == key || (number ++ "_").toList.isPrefixOf wanted.toList ||
    (key ++ "_").toList.isPrefixOf wanted.toList

theorem isKeyOf_marker (key number : String) : isKeyOf key number key = true := by
  simp [isKeyOf]

theorem isKeyOf_short (key number rest : String) :
    isKeyOf key number (keyUnder number rest) = true := by
  simp [isKeyOf, keyUnder]

theorem isKeyOf_full (key number rest : String) :
    isKeyOf key number (keyUnder key rest) = true := by
  simp [isKeyOf, keyUnder]

/-- The forms say the same under every key of the group. -/
def SameUnder (form other : Form) (key number : String) : Prop :=
  forall wanted, isKeyOf key number wanted = true -> other.values wanted = form.values wanted

theorem item?_eq_of_values
    (hshort : forall rest,
      other.values (keyUnder number rest) = form.values (keyUnder number rest))
    (hfull : forall rest, other.values (keyUnder key rest) = form.values (keyUnder key rest))
    (name : String) :
    item? other catalog key number name = item? form catalog key number name := by
  have hstart : prefixOf other key number name = prefixOf form key number name := by
    rw [prefixOf_eq, prefixOf_eq, Form.has_congr (hshort name)]
  have hvalues : forall rest,
      other.values (keyUnder (prefixOf form key number name) rest) =
        form.values (keyUnder (prefixOf form key number name) rest) := by
    intro rest
    rw [prefixOf_eq]
    split
    · exact hshort rest
    · exact hfull rest
  apply item?_congr
  · rw [hstart]
    exact hvalues name
  · intro _ ending _
    rw [hstart, keyUnder, String.append_assoc]
    exact hvalues (name ++ ending)

theorem listed?_eq_of_values (h : other.values key = form.values key) :
    listed? other key = listed? form key := by
  rw [listed?, listed?, Form.last?, Form.last?, h]

theorem itemsOf_eq_of_sameUnder (h : SameUnder form other key number) :
    itemsOf other catalog key number (other.values key) =
      itemsOf form catalog key number (form.values key) := by
  rw [h key (isKeyOf_marker key number)]
  apply itemsOf_congr
  intro name _
  exact item?_eq_of_values (fun rest => h _ (isKeyOf_short key number rest))
    (fun rest => h _ (isKeyOf_full key number rest)) name

/-!
## The groups of a form
-/

theorem listed?_eq_some : listed? form key = some number <->
    number? key = some number ∧ IsRead form key := by
  constructor
  · intro h
    refine ⟨number?_of_listed? h, ?_⟩
    unfold listed? at h
    split at h
    · rename_i last _ hlast
      split at h
      · cases h
      · rename_i hread
        rw [Bool.or_eq_true, not_or, String.isEmpty_iff] at hread
        refine ⟨last, hlast, hread.left, ?_⟩
        intro hsuffix
        exact hread.right (List.isSuffixOf_iff_suffix.mpr hsuffix)
    · cases h
  · intro h
    rcases h with ⟨hnumber, hread⟩
    exact listed?_of_isRead hnumber hread

/-- The group is what is read under its key. -/
def ReadFrom (form : Form) (catalog : Catalog) (group : FilterGroup) : Prop :=
  exists number, listed? form group.key = some number ∧
    itemsOf form catalog group.key number (form.values group.key) = .ok group.items

private theorem mem_ofKeys {keys : List String} {groups : List FilterGroup}
    (h : ofKeys form catalog keys = .ok groups) (group : FilterGroup) :
    group ∈ groups <-> group.key ∈ keys ∧ ReadFrom form catalog group := by
  constructor
  · intro hgroup
    induction keys generalizing groups with
    | nil =>
        cases h
        cases hgroup
    | cons key keys ih =>
        unfold ofKeys at h
        cases hlisted : listed? form key with
        | none =>
            rw [hlisted] at h
            rcases ih h hgroup with ⟨hkey, hread⟩
            exact ⟨List.mem_cons_of_mem _ hkey, hread⟩
        | some number =>
            rw [hlisted] at h
            rcases bind_eq_ok.mp h with ⟨items, hitems, h⟩
            rcases bind_eq_ok.mp h with ⟨rest, hrest, h⟩
            cases h
            rcases List.mem_cons.mp hgroup with rfl | hgroup
            · exact ⟨List.mem_cons_self, number, hlisted, hitems⟩
            · rcases ih hrest hgroup with ⟨hkey, hread⟩
              exact ⟨List.mem_cons_of_mem _ hkey, hread⟩
  · intro h
    rcases h with ⟨hkey, number, hlisted, hitems⟩
    rcases itemsOf_of_mem h hkey hlisted with ⟨items, hfound, hgroup⟩
    rw [hitems] at hfound
    cases hfound
    exact hgroup

theorem keys_ofKeys {keys : List String} {groups : List FilterGroup}
    (h : ofKeys form catalog keys = .ok groups) :
    groups.map (·.key) = keys.filter fun key => (listed? form key).isSome := by
  induction keys generalizing groups with
  | nil =>
      cases h
      rfl
  | cons key keys ih =>
      unfold ofKeys at h
      cases hlisted : listed? form key with
      | none =>
          rw [hlisted] at h
          rw [List.filter_cons_of_neg (by simp [hlisted]), ih h]
      | some number =>
          rw [hlisted] at h
          rcases bind_eq_ok.mp h with ⟨items, _, h⟩
          rcases bind_eq_ok.mp h with ⟨rest, hrest, h⟩
          cases h
          rw [List.filter_cons_of_pos (by simp [hlisted]), List.map_cons, ih hrest]

theorem mem_ofForm {groups : List FilterGroup} (h : ofForm form catalog = .ok groups)
    (group : FilterGroup) :
    group ∈ groups <-> ReadFrom form catalog group := by
  rw [mem_ofKeys h, and_iff_right_iff_imp]
  intro h
  rcases h with ⟨number, hlisted, _⟩
  rcases listed?_eq_some.mp hlisted with ⟨_, last, hlast, _⟩
  exact Form.mem_keys_of_last? hlast

theorem readFrom_congr (hnumber : number? key = some number)
    (h : SameUnder form other key number) {group : FilterGroup} (hkey : group.key = key) :
    ReadFrom other catalog group <-> ReadFrom form catalog group := by
  subst hkey
  unfold ReadFrom
  rw [listed?_eq_of_values (h _ (isKeyOf_marker _ _))]
  apply exists_congr
  intro digits
  rw [and_congr_right_iff]
  intro hdigits
  -- The group that the key lists has one number only.
  have heq := number?_of_listed? hdigits
  rw [hnumber] at heq
  cases heq
  rw [itemsOf_eq_of_sameUnder h]

/-- The groups are those whose markers are read, in the order in which their markers occur
first. -/
structure InFirstOrder (form : Form) (groups : List FilterGroup) : Prop where
  read :
    forall key, key ∈ groups.map (·.key) <->
      (exists number, number? key = some number) ∧ IsRead form key
  order :
    (groups.map (·.key)).Pairwise fun key later => form.firstAt key < form.firstAt later

private theorem ofForm_inFirstOrder {groups : List FilterGroup}
    (h : ofForm form catalog = .ok groups) :
    InFirstOrder form groups := by
  constructor
  · intro key
    rw [keys_ofKeys h, List.mem_filter, Option.isSome_iff_exists]
    constructor
    · intro h
      rcases h with ⟨_, number, hlisted⟩
      rcases listed?_eq_some.mp hlisted with ⟨hnumber, hread⟩
      exact ⟨⟨number, hnumber⟩, hread⟩
    · intro h
      rcases h with ⟨⟨number, hnumber⟩, hread⟩
      have hlisted := listed?_of_isRead hnumber hread
      rcases hread with ⟨last, hlast, _⟩
      exact ⟨Form.mem_keys_of_last? hlast, number, hlisted⟩
  · rw [keys_ofKeys h]
    exact form.keys_inOrder.filter _

/--
Two forms that say the same under the keys of a group have the same group there, or none,
whatever else they say and in whatever order.  The groups of a form come in the order in which
their markers occur first, each of them once.
-/
theorem groups_are_isolated (catalog : Catalog) :
    (forall (form other : Form) (groups others : List FilterGroup) (key number : String),
      number? key = some number -> SameUnder form other key number ->
        ofForm form catalog = .ok groups -> ofForm other catalog = .ok others ->
          forall group : FilterGroup, group.key = key ->
            (group ∈ others <-> group ∈ groups)) ∧
      forall (form : Form) (groups : List FilterGroup),
        ofForm form catalog = .ok groups -> InFirstOrder form groups := by
  constructor
  · intro form other groups others key number hnumber hsame hgroups hothers group hkey
    rw [mem_ofForm hothers, mem_ofForm hgroups]
    exact readFrom_congr hnumber hsame hkey
  · intro form groups h
    exact ofForm_inFirstOrder h

def contactedByAnn : Form :=
  ⟨[("include:1", "contacted_by"), ("1_contacted_by", "ann"),
    ("1_contacted_by__contacted_since", "2020-01-01")]⟩

def contactedByAnnAmongOthers : Form :=
  ⟨[("include:11", "contacted_since"), ("11_contacted_by", "bob"), ("user_name", "zoe"),
    ("include:1", "contacted_by"), ("include:11_contacted_since__contacted_by", "eve"),
    ("1_contacted_by", "ann"), ("include:11_contacted_since", "2020-02-02"),
    ("1_contacted_by__contacted_since", "2020-01-01"), ("11_contacted_by_istoggle", "0")]⟩

def groupOfAnn : FilterGroup :=
  ⟨"include:1", [⟨"contacted_by", ["ann"], true, [("contacted_since", "2020-01-01")]⟩]⟩

theorem groups_are_isolated_contactedByAnn :
    number? "include:1" = some "1" ∧
      SameUnder contactedByAnn contactedByAnnAmongOthers "include:1" "1" ∧
      exists others, ofForm contactedByAnn .standard = .ok [groupOfAnn] ∧
        ofForm contactedByAnnAmongOthers .standard = .ok others ∧
        groupOfAnn ∈ others ∧ InFirstOrder contactedByAnnAmongOthers others := by
  have hsame : SameUnder contactedByAnn contactedByAnnAmongOthers "include:1" "1" :=
    fun _ hwanted => Form.values_eq_of_filter (isKeyOf "include:1" "1") (by decide) hwanted
  have hgroups : ofForm contactedByAnn .standard = .ok [groupOfAnn] := rfl
  have hothers : ofForm contactedByAnnAmongOthers .standard = .ok _ := rfl
  have hisolated := groups_are_isolated .standard
  have hgroup := hisolated.left _ _ _ _ _ _ rfl hsame hgroups hothers groupOfAnn rfl
  exact ⟨rfl, hsame, _, hgroups, hothers, hgroup.mpr (List.mem_singleton.mpr rfl),
    hisolated.right _ _ hothers⟩

end FilterGroup
end Audience
