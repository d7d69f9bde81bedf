import Audience.Json
import Mathlib.Data.List.Nodup

/-!
# Fields of objects

## Fields that are set

A field that is set takes the place of the field of its name, if there is one.  So the fields
of an object keep names of their own, and the fields of another object take precedence when
they are set one after another.
-/

namespace Audience
namespace Json

structure WellNamed (fields : List (Option String × Json)) : Prop where
  named : none ∉ fields.map Prod.fst
  nodup : (fields.map Prod.fst).Nodup

theorem field?_cons (name : String) (known : Option String) (value : Json)
    (rest : List (Option String × Json)) :
    field? name (.object ((known, value) :: rest)) =
      (field? name (.object rest)).or (if known = some name then some value else none) := by
  have hlast : forall last : Option (Option String × Json),
      Option.map Prod.snd (some (last.getD (known, value))) =
        (last.map Prod.snd).or (some value) := by
    intro last
    cases last <;> rfl
  rw [field?, field?, List.filter_cons]
  by_cases hknown : known = some name
  · rw [if_pos (beq_iff_eq.mpr hknown), if_pos hknown, List.getLast?_cons]
    exact hlast _
  · rw [if_neg (fun h => hknown (beq_iff_eq.mp h)), if_neg hknown, Option.or_none]

private theorem field?_of_notMem {name : String} {fields : List (Option String × Json)}
    (h : some name ∉ fields.map Prod.fst) : field? name (.object fields) = none := by
  induction fields with
  | nil =>
      rfl
  | cons field rest ih =>
      rw [List.map_cons, List.mem_cons, not_or] at h
      rw [field?_cons, ih h.right, if_neg (Ne.symm h.left)]
      rfl

theorem field?_setField {fields : List (Option String × Json)}
    (h : (fields.map Prod.fst).Nodup) (name other : String) (value : Json) :
    field? other (.object (setField name value fields)) =
      (if some name = some other then some value else none).or (field? other (.object fields)) := by
  induction fields with
  | nil =>
      rw [setField, field?_cons]
      exact (Option.or_none).symm
  | cons field rest ih =>
      rcases field with ⟨known, old⟩
      rw [List.map_cons, List.nodup_cons] at h
      rw [setField]
      split
      · rename_i hknown
        rw [beq_iff_eq] at hknown
        subst hknown
        rw [field?_cons, field?_cons]
        split
        · rename_i hother
          rw [field?_of_notMem (hother ▸ h.left)]
          rfl
        · rfl
      · rw [field?_cons, field?_cons, ih h.right, Option.or_assoc]

private theorem map_fst_setField (name : String) (value : Json)
    (fields : List (Option String × Json)) :
    (setField name value fields).map Prod.fst =
      if some name ∈ fields.map Prod.fst then fields.map Prod.fst
      else fields.map Prod.fst ++ [some name] := by
  induction fields with
  | nil =>
      rfl
  | cons field rest ih =>
      rcases field with ⟨known, old⟩
      rw [setField]
      split
      · rename_i hknown
        rw [if_pos]
        · rfl
        · rw [List.map_cons, beq_iff_eq.mp hknown]
          exact List.mem_cons_self
      · rename_i hknown
        have hne : some name ≠ known := fun h => hknown (beq_iff_eq.mpr h.symm)
        rw [List.map_cons, List.map_cons, ih]
        by_cases hrest : some name ∈ rest.map Prod.fst
        · rw [if_pos hrest, if_pos (List.mem_cons_of_mem known hrest)]
        · rw [if_neg hrest, if_neg (List.not_mem_cons_of_ne_of_not_mem hne hrest)]
          rfl

theorem WellNamed.setField {fields : List (Option String × Json)} (h : WellNamed fields)
    (name : String) (value : Json) : WellNamed (setField name value fields) := by
  constructor
  · rw [map_fst_setField]
    split
    · exact h.named
    · intro hmem
      rcases List.mem_append.mp hmem with hmem | hmem
      · exact h.named hmem
      · cases List.mem_singleton.mp hmem
  · rw [map_fst_setField]
    split
    · exact h.nodup
    · rename_i hnew
      rw [List.nodup_append]
      refine ⟨h.nodup, List.nodup_singleton _, ?_⟩
      intro known hknown _ hlast h
      rcases h with rfl
      exact hnew (List.mem_singleton.mp hlast ▸ hknown)

def putField (fields : List (Option String × Json)) (field : Option String × Json) :
    List (Option String × Json) :=
  match field.1 with
  | some name => setField name field.2 fields
  | none => fields

theorem wellNamed_putFields {fields : List (Option String × Json)} (h : WellNamed fields)
    (extra : List (Option String × Json)) : WellNamed (extra.foldl putField fields) := by
  induction extra generalizing fields with
  | nil =>
      exact h
  | cons field extra ih =>
      rcases field with ⟨_ | name, value⟩
      · exact ih h
      · exact ih (h.setField name value)

theorem field?_putFields {fields : List (Option String × Json)} (h : WellNamed fields)
    (extra : List (Option String × Json)) (name : String) :
    field? name (.object (extra.foldl putField fields)) =
      (field? name (.object extra)).or (field? name (.object fields)) := by
  induction extra generalizing fields with
  | nil =>
      rfl
  | cons field extra ih =>
      rcases field with ⟨_ | known, value⟩
      · rw [field?_cons, if_neg nofun, Option.or_none]
        exact ih h
      · rw [field?_cons, Option.or_assoc, ← field?_setField h.nodup]
        exact ih (h.setField known value)

end Json

end Audience
