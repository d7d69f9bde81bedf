import Audience.Extension
import Audience.Proofs.Subscription
import Audience.Proofs.Usable

/-!
# Kinds of columns

## Trimming around a mark

Blanks around a text are taken away on either side of any other character in it.
-/

namespace Audience

namespace Text

theorem trimStart_append {sep : Char} (hsep : isBlank sep = false) (before after : List Char) :
    trimStart (before ++ sep :: after) = trimStart before ++ sep :: after := by
  induction before with
  | nil =>
      exact List.dropWhile_cons_of_neg (by simp [hsep])
  | cons c before ih =>
      cases hc : isBlank c with
      | true =>
          have hhere : trimStart (c :: before) = trimStart before := by
            exact List.dropWhile_cons_of_pos hc
          rw [hhere, ← ih]
          exact List.dropWhile_cons_of_pos hc
      | false =>
          have hhere : trimStart (c :: before) = c :: before := by
            exact List.dropWhile_cons_of_neg (by simp [hc])
          rw [hhere]
          exact List.dropWhile_cons_of_neg (by simp [hc])

theorem trimEnd_append {sep : Char} (hsep : isBlank sep = false) (before after : List Char) :
    trimEnd (before ++ sep :: after) = before ++ sep :: trimEnd after := by
  have hstart := trimStart_append hsep after.reverse before.reverse
  unfold trimEnd
  rw [List.reverse_append, List.reverse_cons, List.append_assoc, List.singleton_append]
  show (trimStart (after.reverse ++ sep :: before.reverse)).reverse = _
  rw [hstart]
  simp [trimStart]

theorem trim_append {sep : Char} (hsep : isBlank sep = false) (before after : List Char) :
    trim (before ++ sep :: after) = trimStart before ++ sep :: trimEnd after := by
  rw [trim, trimStart_append hsep, trimEnd_append hsep]

theorem trim_trimStart (s : List Char) : trim (trimStart s) = trim s := by
  have htwice : trimStart (trimStart s) = trimStart s := List.dropWhile_idempotent isBlank s
  rw [trim, htwice, trim]

theorem trim_trimEnd (s : List Char) : trim (trimEnd s) = trim s := by
  by_cases hall : forall c, c ∈ s -> isBlank c = true
  · have hstart : trimStart s = [] := List.dropWhile_eq_nil_iff.mpr hall
    have hend : trimEnd s = [] := by
      rw [trimEnd, List.reverse_eq_nil_iff, List.dropWhile_eq_nil_iff]
      intro c hc
      exact hall c (List.mem_reverse.mp hc)
    rw [hend, trim, trim, hstart]
    rfl
  · push Not at hall
    rcases hall with ⟨c, hc, hblank⟩
    rw [Ne, Bool.not_eq_true] at hblank
    rcases List.append_of_mem hc with ⟨before, after, rfl⟩
    have htwice : trimEnd (trimEnd after) = trimEnd after :=
      List.rdropWhile_idempotent isBlank after
    rw [trimEnd_append hblank, trim_append hblank, trim_append hblank, htwice]

end Text

/-!
## Looking up a kind
-/

namespace ExtensionRegistry

theorem lookup_eq_none {registry : ExtensionRegistry} {kind : String} :
    registry.factories.lookup kind = none <-> kind ∉ registry.factories.map Prod.fst := by
  rw [List.lookup_eq_none_iff, List.mem_map]
  constructor
  · intro h h
    rcases h with ⟨entry, hentry, rfl⟩
    exact bne_iff_ne.mp (h entry hentry) rfl
  · intro h entry hentry
    rw [bne_iff_ne]
    intro h
    rcases h with rfl
    exact h ⟨entry, hentry, rfl⟩

end ExtensionRegistry

/-!
## What the kinds make of the parameters

A kind that needs parameters refuses blank ones.  A field and its value are told apart by the
first equals sign, and blanks around either are of no account.
-/

namespace ExtensionColumn

open Text

/-- The conditions that the kinds which are always there make of a column. -/
inductive Makes (column : ExtensionColumn) : Predicate -> Prop where
  | present (hkind : column.kind = "user_field_present")
      (hfield : blank column.parameters = false) :
      Makes column (.related (.userField (trimmed column.parameters)) none)
  | equals {field value : List Char} (hkind : column.kind = "user_field_equals")
      (hcut : column.parameters.toList = field ++ '=' :: value) (hfirst : '=' ∉ field)
      (hfield : trim field ≠ []) :
      Makes column (.related (.userField (String.ofList (trim field)))
        (some [String.ofList (trim value)]))
  | phone (hkind : column.kind = "has_phone") :
      Makes column (.related .phone none)

variable {column : ExtensionColumn}

theorem userFieldPresent_eq (column : ExtensionColumn) :
    userFieldPresent column =
      if blank column.parameters then .error column.invalidParameters
      else .ok (column.extension (.related (.userField (trimmed column.parameters)) none)) := by
  have hblank : (trim column.parameters.toList).isEmpty = blank column.parameters := by
    rw [Bool.eq_iff_iff, List.isEmpty_iff]
    exact trim_eq_nil_iff column.parameters
  unfold userFieldPresent parameter
  dsimp only
  rw [hblank]
  cases blank column.parameters <;> rfl

private theorem mem_of_mem_trim {c : Char} {s : List Char} (h : c ∈ trim s) : c ∈ s := by
  have hend := (List.dropWhile_sublist isBlank).subset (List.mem_reverse.mp h)
  exact (List.dropWhile_sublist isBlank).subset (List.mem_reverse.mp hend)

theorem userFieldEquals_of_notMem (h : '=' ∉ column.parameters.toList) :
    userFieldEquals column = .error column.invalidParameters := by
  have hcut : cutAt? ['='] (trim column.parameters.toList) = none := by
    cases hfound : cutAt? ['='] (trim column.parameters.toList) with
    | none =>
        rfl
    | some halves =>
        have hmem : '=' ∈ trim column.parameters.toList := by
          rw [cutAt?_eq_some hfound]
          simp
        exact absurd (mem_of_mem_trim hmem) h
  unfold userFieldEquals parameter
  dsimp only
  split
  · rfl
  · simp only [bind, Except.bind, hcut]

theorem userFieldEquals_of_split {field value : List Char}
    (hcut : column.parameters.toList = field ++ '=' :: value) (hfirst : '=' ∉ field) :
    userFieldEquals column =
      if (trim field).isEmpty then .error column.invalidParameters
      else .ok (column.extension (.related (.userField (String.ofList (trim field)))
        (some [String.ofList (trim value)]))) := by
  have hparameter : column.parameter = .ok (trimStart field ++ '=' :: trimEnd value) := by
    rw [parameter, hcut, trim_append (by decide)]
    simp
  have hbefore : '=' ∉ trimStart field := fun hmem =>
    hfirst ((List.dropWhile_sublist isBlank).subset hmem)
  simp only [userFieldEquals, hparameter, bind, Except.bind, cutAt?_of_notMem hbefore,
    trim_trimStart, trim_trimEnd]
  rfl

/-!
## The registry

A kind that is not there is one reason to refuse a column, and what the kind itself refuses
is the other.
-/

def standardKinds : List String :=
  ["user_field_present", "user_field_equals", "has_phone"]

theorem load_userFieldPresent (hkind : column.kind = "user_field_present") :
    ExtensionRegistry.standard.load column = userFieldPresent column := by
  rw [ExtensionRegistry.load, hkind]
  rfl

theorem load_userFieldEquals (hkind : column.kind = "user_field_equals") :
    ExtensionRegistry.standard.load column = userFieldEquals column := by
  rw [ExtensionRegistry.load, hkind]
  rfl

private theorem load_hasPhone (hkind : column.kind = "has_phone") :
    ExtensionRegistry.standard.load column = hasPhone column := by
  rw [ExtensionRegistry.load, hkind]
  rfl

theorem load_unknown (hkind : column.kind ∉ standardKinds) :
    ExtensionRegistry.standard.load column =
      .error (.unknownColumnKind column.name column.kind) := by
  have hnone : ExtensionRegistry.standard.factories.lookup column.kind = none :=
    ExtensionRegistry.lookup_eq_none.mpr hkind
  rw [ExtensionRegistry.load, hnone]

theorem load_standard_of_makes {p : Predicate} (h : column.Makes p) :
    ExtensionRegistry.standard.load column = .ok (column.extension p) := by
  cases h with
  | present hkind hfield =>
      rw [load_userFieldPresent hkind, userFieldPresent_eq, hfield]
      rfl
  | equals hkind hcut hfirst hfield =>
      have hempty : (trim _).isEmpty = false := List.isEmpty_eq_false_iff.mpr hfield
      rw [load_userFieldEquals hkind, userFieldEquals_of_split hcut hfirst, hempty]
      rfl
  | phone hkind =>
      exact load_hasPhone hkind

/-- A kind that is there makes a condition of a column, or there is none and its parameters
are to blame. -/
theorem load_standard_known (hkind : column.kind ∈ standardKinds) :
    (exists p, column.Makes p) ∨
      ExtensionRegistry.standard.load column = .error column.invalidParameters := by
  simp only [standardKinds, List.mem_cons, List.not_mem_nil, or_false] at hkind
  rcases hkind with hkind | hkind | hkind
  · cases hfield : blank column.parameters with
    | false =>
        exact Or.inl ⟨_, .present hkind hfield⟩
    | true =>
        rw [load_userFieldPresent hkind, userFieldPresent_eq, hfield]
        exact Or.inr rfl
  · rw [load_userFieldEquals hkind]
    by_cases hmem : '=' ∈ column.parameters.toList
    · rcases List.eq_append_cons_of_mem hmem with ⟨field, value, hcut, hfirst⟩
      by_cases hfield : trim field = []
      · rw [userFieldEquals_of_split hcut hfirst, hfield]
        exact Or.inr rfl
      · exact Or.inl ⟨_, .equals hkind hcut hfirst hfield⟩
    · exact Or.inr (userFieldEquals_of_notMem hmem)
  · exact Or.inl ⟨_, .phone hkind⟩

theorem load_standard_eq_ok {extension : Extension} :
    ExtensionRegistry.standard.load column = .ok extension <->
      column.Makes extension.predicate ∧ extension.phrase = column.displayName := by
  constructor
  · intro h
    by_cases hkind : column.kind ∈ standardKinds
    · rcases load_standard_known hkind with ⟨p, hmakes⟩ | hrefused
      · rw [load_standard_of_makes hmakes] at h
        cases h
        exact ⟨hmakes, rfl⟩
      · rw [hrefused] at h
        cases h
    · rw [load_unknown hkind] at h
      cases h
  · intro h
    rcases h with ⟨hmakes, hphrase⟩
    rw [load_standard_of_makes hmakes]
    show Except.ok (Extension.mk extension.predicate column.displayName) = _
    rw [← hphrase]

theorem load_standard_eq_error {cause : RequestError} :
    ExtensionRegistry.standard.load column = .error cause <->
      (column.kind ∉ standardKinds ∧ cause = .unknownColumnKind column.name column.kind) ∨
        (column.kind ∈ standardKinds ∧ (forall p, ¬ column.Makes p) ∧
          cause = .invalidColumnParameters column.name column.parameters) := by
  constructor
  · intro h
    by_cases hkind : column.kind ∈ standardKinds
    · rcases load_standard_known hkind with ⟨p, hmakes⟩ | hrefused
      · rw [load_standard_of_makes hmakes] at h
        cases h
      · rw [hrefused] at h
        refine Or.inr ⟨hkind, ?_, (Except.error.inj h).symm⟩
        intro p hmakes
        rw [load_standard_of_makes hmakes] at hrefused
        cases hrefused
    · rw [load_unknown hkind] at h
      exact Or.inl ⟨hkind, (Except.error.inj h).symm⟩
  · intro h
    rcases h with ⟨hkind, rfl⟩ | ⟨hkind, hnone, rfl⟩
    · exact load_unknown hkind
    · rcases load_standard_known hkind with ⟨p, hmakes⟩ | hrefused
      · exact absurd hmakes (hnone p)
      · exact hrefused

end ExtensionColumn
end Audience
