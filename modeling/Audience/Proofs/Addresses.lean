import Audience.Proofs.Escapes

/-!
# Parts of addresses

## Marks

A fragment begins at the first number sign of an address, and the query at the first question
mark in front of it.  In a target that was read from an address neither mark is left but the
question mark in front of its query, so that the written target is taken apart in the same way.
-/

namespace Audience
namespace Http

open Text Form

theorem cutAtMark_of_notMem {mark : Char} {s : List Char} (h : mark ∉ s) :
    cutAtMark mark s = (s, none) := by
  rw [cutAtMark, cutAt?_eq_none h]

theorem cutAtMark_append {mark : Char} {before : List Char} (h : mark ∉ before)
    (after : List Char) : cutAtMark mark (before ++ mark :: after) = (before, some after) := by
  rw [cutAtMark, cutAt?_of_notMem h]

def queryOf? (s : List Char) : Option (List Char) :=
  (cutAtMark '?' (cutAtMark '#' s).1).2

theorem notMem_pathOf {mark : Char} (hslash : mark ≠ '/')
    (hforbidden : isForbiddenInPath mark = true) (hwritten : isWritten mark = false)
    (s : List Char) : mark ∉ pathOf s := by
  unfold pathOf
  dsimp only
  rw [List.mem_cons, not_or]
  constructor
  · exact hslash
  · intro h
    rcases mem_intercalate h with hmark | ⟨segment, hsegment, hmem⟩
    · exact hslash (List.mem_singleton.mp hmark)
    · rcases List.mem_map.mp hsegment with ⟨plain, _, rfl⟩
      exact notMem_escaped hforbidden hwritten plain hmem

namespace Target

structure KeepsMarks (target : Target) : Prop where
  question : '?' ∉ target.path
  fragment : '#' ∉ target.path
  queryFragment : forall query, target.query = some query -> '#' ∉ query

variable {target : Target}

theorem ofText?_query {s : String} (h : ofText? s = some target) :
    target.query = (queryOf? (cleaned s.toList)).map (escaped isForbiddenInQuery) := by
  unfold ofText? at h
  dsimp only at h
  split at h
  · cases h
    rfl
  · split at h
    · cases h
      rfl
    · cases h

private theorem ofText?_path {s : String} (h : ofText? s = some target) :
    target.path = ['/'] ∨ exists path, target.path = pathOf path := by
  unfold ofText? at h
  dsimp only at h
  split at h
  · cases h
    exact Or.inl rfl
  · split at h
    · cases h
      exact Or.inr ⟨_, rfl⟩
    · cases h

private theorem notMem_path_of_ofText? {s : String} (h : ofText? s = some target) {mark : Char}
    (hslash : mark ≠ '/') (hforbidden : isForbiddenInPath mark = true)
    (hwritten : isWritten mark = false) : mark ∉ target.path := by
  rcases ofText?_path h with hpath | ⟨path, hpath⟩
  · rw [hpath, List.mem_singleton]
    exact hslash
  · rw [hpath]
    exact notMem_pathOf hslash hforbidden hwritten path

theorem keepsMarks_ofText? {s : String} (h : ofText? s = some target) : target.KeepsMarks := by
  constructor
  · exact notMem_path_of_ofText? h (by decide) rfl rfl
  · exact notMem_path_of_ofText? h (by decide) rfl rfl
  · intro query hquery
    rw [ofText?_query h] at hquery
    rcases Option.map_eq_some_iff.mp hquery with ⟨plain, _, rfl⟩
    exact notMem_escaped rfl rfl plain

theorem KeepsMarks.queryOf?_text (h : target.KeepsMarks) :
    queryOf? target.text.toList = target.query := by
  unfold queryOf? Target.text
  rcases hquery : target.query with _ | query
  · rw [String.toList_ofList, cutAtMark_of_notMem h.fragment]
    dsimp only
    rw [cutAtMark_of_notMem h.question]
  · have hfragment : '#' ∉ target.path ++ '?' :: query := by
      rw [List.mem_append, List.mem_cons, not_or, not_or]
      exact ⟨h.fragment, by decide, h.queryFragment query hquery⟩
    dsimp only
    rw [String.toList_ofList, cutAtMark_of_notMem hfragment]
    dsimp only
    rw [cutAtMark_append h.question]

end Target
end Http
end Audience
