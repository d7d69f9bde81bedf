import Audience.Proofs.Occurrences
import Audience.Text.Split

/-!
# Texts in parts

## Splitting

A separator ends a part whatever stands around it.  So two texts with a separator between them
are split independently, and a text without separators belongs to the first part of what it
stands in front of.
-/

namespace Audience
namespace Text

variable {sep : Char -> Bool} {c : Char}

theorem splitWhere_ne_nil (sep : Char -> Bool) (s : List Char) : splitWhere sep s ≠ [] := by
  cases s with
  | nil =>
      exact List.cons_ne_nil _ _
  | cons c s =>
      rw [splitWhere]
      split
      · exact List.cons_ne_nil _ _
      · split <;> exact List.cons_ne_nil _ _

theorem splitWhere_cons_sep (h : sep c = true) (s : List Char) :
    splitWhere sep (c :: s) = [] :: splitWhere sep s := by
  rw [splitWhere, if_pos h]

theorem splitWhere_cons_other (h : sep c = false) (s : List Char) :
    splitWhere sep (c :: s) = (splitWhere sep s).modifyHead (c :: ·) := by
  rw [splitWhere, h, if_neg Bool.false_ne_true]
  split
  · rename_i hnil
    exact absurd hnil (splitWhere_ne_nil sep s)
  · rename_i part parts hcons
    rw [hcons, List.modifyHead_cons]

theorem splitWhere_append_sep (h : sep c = true) (s rest : List Char) :
    splitWhere sep (s ++ c :: rest) = splitWhere sep s ++ splitWhere sep rest := by
  induction s with
  | nil =>
      exact splitWhere_cons_sep h rest
  | cons first s ih =>
      rw [List.cons_append]
      cases hfirst : sep first with
      | true =>
          rw [splitWhere_cons_sep hfirst, splitWhere_cons_sep hfirst, ih, List.cons_append]
      | false =>
          rw [splitWhere_cons_other hfirst, splitWhere_cons_other hfirst, ih]
          rcases hparts : splitWhere sep s with _ | ⟨part, parts⟩
          · exact absurd hparts (splitWhere_ne_nil sep s)
          · rfl

private theorem splitWhere_append_other {s : List Char} (h : forall c, c ∈ s -> sep c = false)
    (rest : List Char) :
    splitWhere sep (s ++ rest) = (splitWhere sep rest).modifyHead (s ++ ·) := by
  induction s with
  | nil =>
      exact (congrFun List.modifyHead_id _).symm
  | cons first s ih =>
      rw [List.forall_mem_cons] at h
      rw [List.cons_append, splitWhere_cons_other h.left, ih h.right, List.modifyHead_modifyHead]
      rfl

theorem splitWhere_flatMap {written : Char -> List Char}
    (hsep : forall c, sep c = true -> written c = [c])
    (hother : forall c, sep c = false -> forall d, d ∈ written c -> sep d = false)
    (s : List Char) :
    splitWhere sep (s.flatMap written) =
      (splitWhere sep s).map fun part => part.flatMap written := by
  induction s with
  | nil =>
      rfl
  | cons c s ih =>
      rw [List.flatMap_cons]
      cases hc : sep c with
      | true =>
          rw [hsep c hc, List.singleton_append, splitWhere_cons_sep hc, splitWhere_cons_sep hc, ih]
          rfl
      | false =>
          rw [splitWhere_append_other (hother c hc), splitWhere_cons_other hc, ih]
          rcases splitWhere sep s with _ | ⟨part, parts⟩
          · rfl
          · rw [List.map_cons, List.modifyHead_cons, List.modifyHead_cons, List.map_cons,
              List.flatMap_cons]

/-!
## Cutting
-/

theorem cutAt?_eq_none {mark : Char} {s : List Char} (h : mark ∉ s) :
    cutAt? [mark] s = none := by
  rcases hcut : cutAt? [mark] s with _ | ⟨before, after⟩
  · rfl
  · rw [cutAt?_eq_some hcut] at h
    simp at h

theorem cutAt?_flatMap {mark : Char} {written : Char -> List Char} (hmark : written mark = [mark])
    (hother : forall c, c ≠ mark -> mark ∉ written c) (s : List Char) :
    cutAt? [mark] (s.flatMap written) =
      (cutAt? [mark] s).map fun halves =>
        (halves.1.flatMap written, halves.2.flatMap written) := by
  have hwritten : forall part : List Char, mark ∉ part -> mark ∉ part.flatMap written := by
    intro part hpart hmem
    rcases List.mem_flatMap.mp hmem with ⟨c, hc, hmarkMem⟩
    exact hother c (fun heq => hpart (heq ▸ hc)) hmarkMem
  by_cases h : mark ∈ s
  · rcases List.eq_append_cons_of_mem h with ⟨before, after, rfl, hbefore⟩
    rw [cutAt?_of_notMem hbefore, List.flatMap_append, List.flatMap_cons, hmark,
      List.singleton_append, cutAt?_of_notMem (hwritten before hbefore)]
    rfl
  · rw [cutAt?_eq_none h, cutAt?_eq_none (hwritten s h)]
    rfl

/-!
## Joining
-/

theorem mem_intercalate {mark : List Char} {parts : List (List Char)}
    (h : c ∈ List.intercalate mark parts) : c ∈ mark ∨ exists part, part ∈ parts ∧ c ∈ part := by
  induction parts with
  | nil =>
      cases h
  | cons part parts ih =>
      cases parts with
      | nil =>
          rw [List.intercalate_singleton] at h
          exact Or.inr ⟨part, List.mem_cons_self, h⟩
      | cons next parts =>
          rw [List.intercalate_cons_cons, List.mem_append, List.mem_append] at h
          rcases h with (hpart | hmark) | hrest
          · exact Or.inr ⟨part, List.mem_cons_self, hpart⟩
          · exact Or.inl hmark
          · rcases ih hrest with hmark | ⟨other, hother, hc⟩
            · exact Or.inl hmark
            · exact Or.inr ⟨other, List.mem_cons_of_mem part hother, hc⟩

end Text
end Audience
