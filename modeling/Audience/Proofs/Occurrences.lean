import Mathlib.Data.List.Infix
import Audience.Text.Search

/-!
# Occurrences of a mark

## Cuts

A text is cut at the occurrences of a mark, from the left and without overlap.  Joining the
parts by the mark gives the text back.  A mark whose last character occurs nowhere else in
it cannot overlap itself, so one occurrence never hides another: the cut through a known
occurrence is the cut of what is before it followed by the cut of what is behind it.
-/

namespace Audience
namespace Text

@[simp] theorem around_nil (mark : List Char) : around mark [] = [[]] := by
  rw [around]

theorem around_ne_nil (mark s : List Char) : around mark s ≠ [] := by
  fun_induction around mark s <;> simp

theorem around_append_left {mark : List Char} (hmark : mark ≠ []) (rest : List Char) :
    around mark (mark ++ rest) = [] :: around mark rest := by
  cases mark with
  | nil =>
      exact absurd rfl hmark
  | cons m marks =>
      have hbegins : marks.isPrefixOf (marks ++ rest) = true :=
        List.isPrefixOf_iff_prefix.mpr (List.prefix_append marks rest)
      rw [List.cons_append, around]
      simp [hbegins]

theorem around_cons {mark : List Char} {c : Char} {rest : List Char}
    (hmark : mark ≠ []) (hbegins : ¬ mark <+: c :: rest) :
    around mark (c :: rest) = (around mark rest).modifyHead (c :: ·) := by
  cases mark with
  | nil =>
      exact absurd rfl hmark
  | cons m marks =>
      have hdiffers : (m == c && marks.isPrefixOf rest) = false := by
        rw [← Bool.not_eq_true, Bool.and_eq_true, beq_iff_eq, List.isPrefixOf_iff_prefix]
        intro h
        exact hbegins (List.cons_prefix_cons.mpr h)
      rw [around]
      simp only [hdiffers, Bool.false_eq_true, if_false]
      cases hparts : around (m :: marks) rest with
      | nil =>
          exact absurd hparts (around_ne_nil _ _)
      | cons part parts =>
          rfl

theorem intercalate_modifyHead {parts : List (List Char)} (hparts : parts ≠ [])
    (mark : List Char) (c : Char) :
    List.intercalate mark (parts.modifyHead (c :: ·)) = c :: List.intercalate mark parts := by
  cases parts with
  | nil =>
      exact absurd rfl hparts
  | cons part rest =>
      cases rest with
      | nil =>
          simp [List.modifyHead]
      | cons next rest =>
          simp [List.modifyHead, List.intercalate_cons_cons]

theorem mark_cases (mark : List Char) (c : Char) (rest : List Char) :
    (exists tail, c :: rest = mark ++ tail) ∨ ¬ mark <+: c :: rest := by
  by_cases hbegins : mark <+: c :: rest
  · rcases hbegins with ⟨tail, htail⟩
    exact Or.inl ⟨tail, htail.symm⟩
  · exact Or.inr hbegins

theorem length_lt_of_append {mark s tail : List Char} (hmark : mark ≠ [])
    (h : s = mark ++ tail) :
    tail.length < s.length := by
  rw [h, List.length_append]
  exact Nat.lt_add_of_pos_left (List.length_pos_iff.mpr hmark)

private theorem intercalate_around {mark : List Char} (hmark : mark ≠ []) (s : List Char) :
    List.intercalate mark (around mark s) = s := by
  match s with
  | [] =>
      rw [around_nil, List.intercalate_singleton]
  | c :: rest =>
      rcases mark_cases mark c rest with htail | hbegins
      · rcases htail with ⟨tail, htail⟩
        have hshort := length_lt_of_append hmark htail
        rw [htail, around_append_left hmark]
        cases hparts : around mark tail with
        | nil =>
            exact absurd hparts (around_ne_nil _ _)
        | cons part parts =>
            rw [List.intercalate_cons_cons, ← hparts, intercalate_around hmark tail,
              List.nil_append]
      · rw [around_cons hmark hbegins, intercalate_modifyHead (around_ne_nil _ _),
          intercalate_around hmark rest]
termination_by s.length
decreasing_by
  · exact hshort
  · exact Nat.lt_succ_self rest.length

/-!
## Counting
-/

theorem occurrences_pos_iff {mark : List Char} (hmark : mark ≠ []) (s : List Char) :
    0 < occurrences mark s <-> mark <:+: s := by
  induction s with
  | nil =>
      rw [occurrences, around_nil, List.infix_nil]
      simp [hmark]
  | cons c rest ih =>
      rw [List.infix_cons_iff]
      rcases mark_cases mark c rest with htail | hbegins
      · rcases htail with ⟨tail, htail⟩
        have hcount : 0 < occurrences mark (c :: rest) := by
          rw [occurrences, htail, around_append_left hmark, List.length_cons,
            Nat.add_sub_cancel]
          exact List.length_pos_iff.mpr (around_ne_nil _ _)
        exact iff_of_true hcount (Or.inl ⟨tail, htail.symm⟩)
      · rw [occurrences, around_cons hmark hbegins, List.length_modifyHead, ← occurrences, ih]
        simp [hbegins]

theorem around_eq_singleton {mark s : List Char} (hmark : mark ≠ []) (h : ¬ mark <:+: s) :
    around mark s = [s] := by
  have hcount : occurrences mark s = 0 := by
    rw [← occurrences_pos_iff hmark s] at h
    omega
  have hjoined := intercalate_around hmark s
  unfold occurrences at hcount
  cases hparts : around mark s with
  | nil =>
      exact absurd hparts (around_ne_nil _ _)
  | cons part parts =>
      rw [hparts, List.length_cons, Nat.add_sub_cancel] at hcount
      rw [hparts, List.length_eq_zero_iff.mp hcount, List.intercalate_singleton] at hjoined
      rw [hjoined, List.length_eq_zero_iff.mp hcount]

theorem occurs_iff {mark : List Char} (s : List Char) :
    occurs mark s = true <-> mark <:+: s := by
  induction s with
  | nil =>
      rw [occurs, List.infix_nil, List.isEmpty_iff]
  | cons c rest ih =>
      rw [occurs, Bool.or_eq_true, ih, List.isPrefixOf_iff_prefix, List.infix_cons_iff]

/-!
## Marks that do not overlap themselves
-/

/-- A mark ends with a character that occurs nowhere else in it. -/
def EndsOnce (mark : List Char) : Prop :=
  exists stem last, mark = stem ++ [last] ∧ last ∉ stem

theorem EndsOnce.ne_nil {mark : List Char} (h : EndsOnce mark) : mark ≠ [] := by
  rcases h with ⟨stem, last, rfl, _⟩
  simp

theorem EndsOnce.prefix_of_prefix_append {mark front after : List Char}
    (h : EndsOnce mark) (hfront : front ≠ [])
    (hbegins : mark <+: front ++ (mark ++ after)) :
    mark <+: front := by
  rcases h with ⟨stem, last, hmark, hlast⟩
  have hbefore : front <+: front ++ (mark ++ after) := List.prefix_append _ _
  rcases Nat.le_total mark.length front.length with hle | hle
  · exact List.prefix_of_prefix_length_le hbegins hbefore hle
  · -- The end of the mark would be a part of the other mark's stem.
    rcases List.prefix_of_prefix_length_le hbefore hbegins hle with ⟨part, hpart⟩
    cases List.eq_nil_or_concat part with
    | inl hnil =>
        rw [← hpart, hnil, List.append_nil]
    | inr hconcat =>
        rcases hconcat with ⟨body, d, rfl⟩
        have hends : front ++ body = stem ∧ d = last := by
          have hsame : (front ++ body) ++ [d] = stem ++ [last] := by
            rw [← hmark, ← hpart, List.concat_eq_append, List.append_assoc]
          rcases List.append_inj' hsame rfl with ⟨hstem, hd⟩
          exact ⟨hstem, List.cons.inj hd |>.left⟩
        have hinside : body ++ [d] <+: mark ++ after := by
          apply (List.prefix_append_right_inj front).mp
          rw [← List.concat_eq_append, hpart]
          exact hbegins
        have hstem : stem <+: mark ++ after := by
          rw [hmark, List.append_assoc]
          exact List.prefix_append _ _
        have hshort : (body ++ [d]).length <= stem.length := by
          have hpos := List.length_pos_iff.mpr hfront
          rw [← hends.left, List.length_append, List.length_append, List.length_singleton]
          omega
        have hmem : d ∈ stem :=
          (List.prefix_of_prefix_length_le hinside hstem hshort).subset (by simp)
        rw [hends.right] at hmem
        exact absurd hmem hlast

theorem around_append {mark : List Char} (h : EndsOnce mark) (before after : List Char) :
    around mark (before ++ (mark ++ after)) = around mark before ++ around mark after := by
  match before with
  | [] =>
      rw [List.nil_append, around_append_left h.ne_nil, around_nil]
      rfl
  | c :: rest =>
      rcases mark_cases mark c rest with htail | hbegins
      · rcases htail with ⟨tail, htail⟩
        have hshort := length_lt_of_append h.ne_nil htail
        rw [htail, List.append_assoc, around_append_left h.ne_nil,
          around_append_left h.ne_nil, around_append h tail after, List.cons_append]
      · have hwhole : ¬ mark <+: c :: (rest ++ (mark ++ after)) := by
          intro hmark
          exact hbegins (h.prefix_of_prefix_append (by simp) hmark)
        rw [List.cons_append, around_cons h.ne_nil hwhole, around_cons h.ne_nil hbegins,
          around_append h rest after]
        cases hparts : around mark rest with
        | nil =>
            exact absurd hparts (around_ne_nil _ _)
        | cons part parts =>
            rfl
termination_by before.length
decreasing_by
  · exact hshort
  · exact Nat.lt_succ_self rest.length

theorem occurrences_append {mark : List Char} (h : EndsOnce mark)
    (before after : List Char) :
    occurrences mark (before ++ (mark ++ after)) =
      occurrences mark before + 1 + occurrences mark after := by
  have hbefore := List.length_pos_iff.mpr (around_ne_nil mark before)
  have hafter := List.length_pos_iff.mpr (around_ne_nil mark after)
  unfold occurrences
  rw [around_append h, List.length_append]
  omega

/-- Replacing touches the known occurrence alone if there is no other one. -/
theorem replaceAll_append {mark : List Char} (h : EndsOnce mark)
    {before after : List Char} (hbefore : ¬ mark <:+: before) (hafter : ¬ mark <:+: after)
    (replacement : List Char) :
    replaceAll mark replacement (before ++ (mark ++ after)) =
      before ++ (replacement ++ after) := by
  unfold replaceAll
  rw [around_append h, around_eq_singleton h.ne_nil hbefore,
    around_eq_singleton h.ne_nil hafter]
  simp [List.intercalate_cons_cons]

end Text
end Audience
