import Audience.Text.Blank

/-!
# Cutting texts apart

Cutting at every separator never loses a character: the parts joined by the
separator are the text again.  Cutting at the first occurrence of a mark keeps
the later occurrences in the second half.
-/

namespace Audience
namespace Text

/-- The parts between the characters that satisfy `sep`; always at least one part. -/
def splitWhere (sep : Char -> Bool) : List Char -> List (List Char)
  | [] => [[]]
  | c :: rest =>
      if sep c then
        [] :: splitWhere sep rest
      else
        match splitWhere sep rest with
        | [] => [[c]]
        | part :: parts => (c :: part) :: parts

def splitOn (sep : Char) (s : List Char) : List (List Char) :=
  splitWhere (· == sep) s

theorem splitOn_of_notMem {sep : Char} {s : List Char} (h : sep ∉ s) :
    splitOn sep s = [s] := by
  induction s with
  | nil =>
      rfl
  | cons c s ih =>
      have hc : (c == sep) = false := by
        simpa using fun heq : c = sep => h (by simp [heq])
      have hs : splitWhere (· == sep) s = [s] := ih fun hmem => h (List.mem_cons_of_mem c hmem)
      simp [splitOn, splitWhere, hc, hs]

theorem splitOn_append {sep : Char} {s : List Char} (h : sep ∉ s) (rest : List Char) :
    splitOn sep (s ++ sep :: rest) = s :: splitOn sep rest := by
  induction s with
  | nil =>
      simp [splitOn, splitWhere]
  | cons c s ih =>
      have hc : (c == sep) = false := by
        simpa using fun heq : c = sep => h (by simp [heq])
      have hs : splitWhere (· == sep) (s ++ sep :: rest) = s :: splitWhere (· == sep) rest :=
        ih fun hmem => h (List.mem_cons_of_mem c hmem)
      simp [splitOn, splitWhere, hc, hs]

/-- The words of a text: its non-empty parts between blanks. -/
def words (s : List Char) : List (List Char) :=
  (splitWhere isBlank s).filter (fun word => !word.isEmpty)

def dropStart? (mark : List Char) : List Char -> Option (List Char) :=
  fun s => if mark.isPrefixOf s then some (s.drop mark.length) else none

theorem dropStart?_eq_some {mark s after : List Char} (h : dropStart? mark s = some after) :
    s = mark ++ after := by
  unfold dropStart? at h
  split at h
  · rename_i hstart
    rcases List.isPrefixOf_iff_prefix.mp hstart with ⟨rest, rfl⟩
    rw [List.drop_left] at h
    cases h
    rfl
  · cases h

/-- The two halves around the first occurrence of a mark. -/
def cutAt? (mark : List Char) : List Char -> Option (List Char × List Char)
  | [] => if mark.isEmpty then some ([], []) else none
  | c :: rest =>
      match dropStart? mark (c :: rest) with
      | some after => some ([], after)
      | none => (cutAt? mark rest).map fun (before, after) => (c :: before, after)

theorem cutAt?_of_notMem {sep : Char} {before : List Char} (h : sep ∉ before)
    (after : List Char) :
    cutAt? [sep] (before ++ sep :: after) = some (before, after) := by
  induction before with
  | nil =>
      simp [cutAt?, dropStart?]
  | cons c before ih =>
      rw [List.mem_cons, not_or] at h
      have hdrop : dropStart? [sep] (c :: (before ++ sep :: after)) = none := by
        simp [dropStart?, h.left]
      rw [List.cons_append, cutAt?, hdrop, ih h.right]
      rfl

theorem cutAt?_eq_some {mark s before after : List Char}
    (h : cutAt? mark s = some (before, after)) :
    s = before ++ mark ++ after := by
  induction s generalizing before with
  | nil =>
      unfold cutAt? at h
      split at h
      · rename_i hmark
        rw [List.isEmpty_iff] at hmark
        cases h
        rw [hmark]
        rfl
      · cases h
  | cons c rest ih =>
      unfold cutAt? at h
      split at h
      · rename_i found hdrop
        cases h
        exact dropStart?_eq_some hdrop
      · rcases Option.map_eq_some_iff.mp h with ⟨⟨first, last⟩, hcut, heq⟩
        cases heq
        rw [ih hcut]
        rfl

def cutString? (mark s : String) : Option (String × String) :=
  (cutAt? mark.toList s.toList).map fun (before, after) =>
    (String.ofList before, String.ofList after)

theorem cutString?_eq_some {mark s before after : String}
    (h : cutString? mark s = some (before, after)) :
    s = before ++ mark ++ after := by
  rcases Option.map_eq_some_iff.mp h with ⟨⟨first, last⟩, hcut, heq⟩
  cases heq
  rw [← String.toList_inj, cutAt?_eq_some hcut]
  simp only [String.toList_append, String.toList_ofList]

def endsWith (mark s : List Char) : Bool :=
  mark.isSuffixOf s

end Text
end Audience
