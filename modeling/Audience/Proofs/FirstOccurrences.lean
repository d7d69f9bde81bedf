import Mathlib.Data.List.Basic
import Mathlib.Data.List.Induction

/-!
# First occurrences

A list without its repetitions keeps each entry where it occurs first.
-/

namespace Audience

section

variable {α : Type _} [BEq α] [LawfulBEq α]

theorem eraseDups_concat_of_mem {entries : List α} {last : α} (h : last ∈ entries) :
    (entries ++ [last]).eraseDups = entries.eraseDups := by
  have hnone : [last].removeAll entries = [] := by
    simp [List.removeAll, h]
  rw [List.eraseDups_append, hnone, List.eraseDups_nil, List.append_nil]

theorem eraseDups_concat_of_notMem {entries : List α} {last : α} (h : last ∉ entries) :
    (entries ++ [last]).eraseDups = entries.eraseDups ++ [last] := by
  have hnew : [last].removeAll entries = [last] := by
    simp [List.removeAll, h]
  have hsingle : [last].eraseDups = [last] := by
    simp [List.eraseDups_cons]
  rw [List.eraseDups_append, hnew, hsingle]

theorem pairwise_eraseDups (entries : List α) :
    entries.eraseDups.Pairwise fun entry later =>
      entries.idxOf entry < entries.idxOf later := by
  induction entries using List.reverseRecOn with
  | nil =>
      exact List.Pairwise.nil
  | append_singleton entries last ih =>
      have hkept : entries.eraseDups.Pairwise fun entry later =>
          (entries ++ [last]).idxOf entry < (entries ++ [last]).idxOf later := by
        apply ih.imp_of_mem
        intro entry later hentry hlater hbefore
        rw [List.mem_eraseDups] at hentry hlater
        rwa [List.idxOf_append_of_mem hentry, List.idxOf_append_of_mem hlater]
      by_cases hlast : last ∈ entries
      · rw [eraseDups_concat_of_mem hlast]
        exact hkept
      · rw [eraseDups_concat_of_notMem hlast, List.pairwise_append]
        refine ⟨hkept, List.pairwise_singleton _ _, ?_⟩
        intro entry hentry later hlater
        rw [List.mem_eraseDups] at hentry
        rw [List.mem_singleton.mp hlater, List.idxOf_append_of_mem hentry,
          List.idxOf_append_of_notMem hlast, List.idxOf_cons_self, Nat.add_zero]
        exact List.idxOf_lt_length_iff.mpr hentry

theorem nodup_eraseDups (entries : List α) : entries.eraseDups.Nodup := by
  apply (pairwise_eraseDups entries).imp
  intro entry later hbefore hsame
  rw [hsame] at hbefore
  exact Nat.lt_irrefl _ hbefore

theorem filter_eraseDups (p : α -> Bool) (entries : List α) :
    entries.eraseDups.filter p = (entries.filter p).eraseDups := by
  induction entries using List.reverseRecOn with
  | nil =>
      rfl
  | append_singleton entries last ih =>
      rw [List.filter_append]
      by_cases hlast : last ∈ entries
      · rw [eraseDups_concat_of_mem hlast, ih]
        cases hkept : p last with
        | false =>
            rw [List.filter_cons_of_neg (by simp [hkept]), List.filter_nil, List.append_nil]
        | true =>
            rw [List.filter_cons_of_pos hkept, List.filter_nil,
              eraseDups_concat_of_mem (List.mem_filter.mpr ⟨hlast, hkept⟩)]
      · rw [eraseDups_concat_of_notMem hlast, List.filter_append, ih]
        cases hkept : p last with
        | false =>
            rw [List.filter_cons_of_neg (by simp [hkept]), List.filter_nil, List.append_nil,
              List.append_nil]
        | true =>
            have hnew : last ∉ entries.filter p := by
              intro hmem
              exact hlast (List.mem_filter.mp hmem).left
            rw [List.filter_cons_of_pos hkept, List.filter_nil,
              eraseDups_concat_of_notMem hnew]

end

end Audience
