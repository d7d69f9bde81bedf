import Mathlib.Data.List.Forall2
import Audience.Proofs.RegularExpressions
import Audience.Proofs.Wildcards

/-!
# Texts cut along a pattern

## Pieces that fit

A pattern matches a text if the text can be cut into pieces, one for each character of the
pattern and in their order.  A pattern can also be written as a regular expression that is
searched for; both views agree with the matcher.
-/

namespace Audience
namespace Text

/-- A piece of a text that a character of a pattern stands for. -/
inductive Fits : Char -> List Char -> Prop where
  | anything (piece : List Char) : Fits '%' piece
  | anyChar (d : Char) : Fits '_' [d]
  | alike {c d : Char} (hpercent : c ≠ '%') (hunderscore : c ≠ '_')
      (h : foldChar d = foldChar c) : Fits c [d]

/-- The whole text can be cut into pieces that fit the characters of the pattern. -/
def CutBy (pattern text : List Char) : Prop :=
  exists pieces : List (List Char), text = pieces.flatten ∧ List.Forall₂ Fits pattern pieces

variable {c : Char} {pattern piece text : List Char}

theorem fits_percent (piece : List Char) : Fits '%' piece :=
  Fits.anything piece

theorem fits_underscore_iff : Fits '_' piece <-> exists d, piece = [d] := by
  constructor
  · intro h
    cases h with
    | anyChar d =>
        exact ⟨d, rfl⟩
    | alike _ hunderscore _ =>
        exact absurd rfl hunderscore
  · intro h
    rcases h with ⟨d, rfl⟩
    exact Fits.anyChar d

theorem fits_iff (hpercent : c ≠ '%') (hunderscore : c ≠ '_') :
    Fits c piece <-> exists d, piece = [d] ∧ foldChar d = foldChar c := by
  constructor
  · intro h
    cases h with
    | anything =>
        exact absurd rfl hpercent
    | anyChar d =>
        exact absurd rfl hunderscore
    | alike _ _ h =>
        exact ⟨_, rfl, h⟩
  · intro h
    rcases h with ⟨d, rfl, h⟩
    exact Fits.alike hpercent hunderscore h

theorem cutBy_nil_iff : CutBy [] text <-> text = [] := by
  constructor
  · intro h
    rcases h with ⟨pieces, rfl, hfits⟩
    cases hfits
    rfl
  · intro h
    rcases h with rfl
    exact ⟨[], rfl, List.Forall₂.nil⟩

theorem cutBy_cons_iff :
    CutBy (c :: pattern) text <->
      exists piece rest, text = piece ++ rest ∧ Fits c piece ∧ CutBy pattern rest := by
  constructor
  · intro h
    rcases h with ⟨pieces, rfl, hfits⟩
    cases hfits with
    | cons hpiece hrest =>
        exact ⟨_, _, List.flatten_cons, hpiece, _, rfl, hrest⟩
  · intro h
    rcases h with ⟨piece, rest, rfl, hpiece, pieces, rfl, hrest⟩
    exact ⟨piece :: pieces, List.flatten_cons.symm, List.Forall₂.cons hpiece hrest⟩

theorem describes_wildcardOf_iff {ws : List Wildcard} :
    Describes (wildcardOf c :: ws) (text.map foldChar) <->
      exists piece rest, text = piece ++ rest ∧ Fits c piece ∧
        Describes ws (rest.map foldChar) := by
  by_cases hpercent : c = '%'
  · rw [hpercent, describes_percent_iff]
    simp only [fits_percent, true_and]
  by_cases hunderscore : c = '_'
  · have hany : wildcardOf '_' = .anyChar := rfl
    rw [hunderscore, hany, describes_anyChar_iff]
    simp only [fits_underscore_iff]
    constructor
    · intro h
      rcases h with ⟨d, rest, htext, h⟩
      rcases List.map_eq_cons_iff.mp htext with ⟨first, tail, rfl, rfl, rfl⟩
      exact ⟨[first], tail, rfl, ⟨first, rfl⟩, h⟩
    · intro h
      rcases h with ⟨piece, rest, rfl, ⟨d, rfl⟩, h⟩
      exact ⟨foldChar d, rest.map foldChar, rfl, h⟩
  · have hexactly : wildcardOf c = .exactly (foldChar c) := by
      simp [wildcardOf, hpercent, hunderscore]
    rw [hexactly, describes_exactly_iff]
    simp only [fits_iff hpercent hunderscore]
    constructor
    · intro h
      rcases h with ⟨rest, htext, h⟩
      rcases List.map_eq_cons_iff.mp htext with ⟨first, tail, rfl, hfirst, rfl⟩
      exact ⟨[first], tail, rfl, ⟨first, rfl, hfirst⟩, h⟩
    · intro h
      rcases h with ⟨piece, rest, rfl, ⟨d, rfl, hd⟩, h⟩
      refine ⟨rest.map foldChar, ?_, h⟩
      rw [List.singleton_append, List.map_cons, hd]

theorem describes_iff_cutBy :
    Describes (pattern.map wildcardOf) (text.map foldChar) <-> CutBy pattern text := by
  induction pattern generalizing text with
  | nil =>
      rw [List.map_nil, describes_nil_iff, List.map_eq_nil_iff, cutBy_nil_iff]
  | cons c pattern ih =>
      rw [List.map_cons, describes_wildcardOf_iff, cutBy_cons_iff]
      simp only [ih]

/-!
## Patterns as expressions

A pattern is written as an expression between two anchors, with a dot for an underscore and
a dot with a star for a percent sign.  Every other character is escaped where the syntax of
expressions gives it a meaning of its own.
-/

def writtenWildcard (c : Char) : List Char :=
  if c == '%' then ['.', '*'] else if c == '_' then ['.'] else Regular.escaped c

def expressionOf (pattern : List Char) : List Char :=
  '^' :: pattern.flatMap writtenWildcard ++ ['$']

def partOf (c : Char) : Regular :=
  if c == '%' then .many .anyChar else if c == '_' then .anyChar else .char c

def partsOf (pattern : List Char) : List Regular :=
  pattern.map partOf ++ [.finish]

private theorem readAfter_writtenWildcard (parts : List Regular) (c : Char) (rest : List Char) :
    Regular.readAfter parts (writtenWildcard c ++ rest) =
      Regular.readAfter (partOf c :: parts) rest := by
  unfold writtenWildcard partOf
  split
  · exact (Regular.readAfter_dot parts _).trans (Regular.readAfter_star .anyChar parts rest)
  · split
    · exact Regular.readAfter_dot parts rest
    · exact Regular.readAfter_escaped parts c rest

private theorem readAfter_flatMap (parts : List Regular) (pattern rest : List Char) :
    Regular.readAfter parts (pattern.flatMap writtenWildcard ++ rest) =
      Regular.readAfter ((pattern.map partOf).reverse ++ parts) rest := by
  induction pattern generalizing parts with
  | nil =>
      rfl
  | cons c pattern ih =>
      rw [List.flatMap_cons, List.append_assoc, readAfter_writtenWildcard, ih, List.map_cons,
        List.reverse_cons, List.append_assoc, List.singleton_append]

/-- The expression is read as the parts it is written for, whatever characters the pattern
holds. -/
theorem read_expressionOf (pattern : List Char) :
    Regular.read? (expressionOf pattern) = some (.start :: partsOf pattern) := by
  have hfirst (rest : List Char) :
      Regular.readAfter [] ('^' :: rest) = Regular.readAfter [.start] rest :=
    Regular.readAfter_cons (by decide) (by decide) (by decide) [] rest
  have hlast (parts : List Regular) :
      Regular.readAfter parts ['$'] = some (Regular.finish :: parts).reverse :=
    Regular.readAfter_cons (by decide) (by decide) (by decide) parts []
  rw [Regular.read?, expressionOf, List.cons_append, hfirst, readAfter_flatMap, hlast, partsOf]
  simp

theorem spans_partOf_iff {before after : List Char} :
    Regular.Spans (partOf c) before piece after <-> Fits c piece := by
  by_cases hpercent : c = '%'
  · rw [hpercent]
    exact iff_of_true (Regular.spans_many_anyChar before piece after) (fits_percent piece)
  by_cases hunderscore : c = '_'
  · rw [hunderscore, fits_underscore_iff]
    exact Regular.spans_anyChar_iff
  · have hchar : partOf c = .char c := by
      simp [partOf, hpercent, hunderscore]
    rw [hchar, Regular.spans_char_iff, fits_iff hpercent hunderscore]

theorem spansInTurn_partsOf_iff {before after : List Char} :
    Regular.SpansInTurn (partsOf pattern) before piece after <->
      after = [] ∧ CutBy pattern piece := by
  unfold partsOf
  induction pattern generalizing before piece with
  | nil =>
      rw [List.map_nil, List.nil_append, Regular.spansInTurn_cons_iff, cutBy_nil_iff]
      simp only [Regular.spans_finish_iff, Regular.spansInTurn_nil_iff]
      constructor
      · intro h
        rcases h with ⟨first, rest, rfl, ⟨rfl, hafter⟩, rfl⟩
        exact ⟨hafter, rfl⟩
      · intro h
        rcases h with ⟨rfl, rfl⟩
        exact ⟨[], [], rfl, ⟨rfl, rfl⟩, rfl⟩
  | cons c pattern ih =>
      rw [List.map_cons, List.cons_append, Regular.spansInTurn_cons_iff, cutBy_cons_iff]
      simp only [spans_partOf_iff, ih]
      constructor
      · intro h
        rcases h with ⟨first, rest, hpiece, hfirst, hafter, hrest⟩
        exact ⟨hafter, first, rest, hpiece, hfirst, hrest⟩
      · intro h
        rcases h with ⟨hafter, first, rest, hpiece, hfirst, hrest⟩
        exact ⟨first, rest, hpiece, hfirst, hafter, hrest⟩

private theorem foundIn_iff_cutBy :
    Regular.FoundIn (.start :: partsOf pattern) text <-> CutBy pattern text := by
  unfold Regular.FoundIn
  simp only [Regular.spansInTurn_cons_iff, Regular.spans_start_iff, spansInTurn_partsOf_iff]
  constructor
  · intro h
    rcases h with ⟨_, _, _, rfl, _, rest, rfl, ⟨rfl, rfl⟩, rfl, hcut⟩
    simpa using hcut
  · intro hcut
    exact ⟨[], text, [], by simp, [], text, rfl, ⟨rfl, rfl⟩, rfl, hcut⟩

/--
A text matches a pattern exactly if it can be cut into pieces that fit the characters of the
pattern in their order.  That is also when the expression for the pattern is found in it, and
every pattern has an expression that can be read.
-/
theorem like_cuts_text (pattern text : List Char) :
    (like pattern text = true <->
      exists pieces, text = pieces.flatten ∧ List.Forall₂ Fits pattern pieces) ∧
    exists parts, Regular.read? (expressionOf pattern) = some parts ∧
      (like pattern text = true <-> Regular.FoundIn parts text) := by
  have hlike : like pattern text = true <-> CutBy pattern text :=
    (like_iff pattern text).trans describes_iff_cutBy
  exact ⟨hlike, _, read_expressionOf pattern, hlike.trans foundIn_iff_cutBy.symm⟩

/-- A point and a dollar stand for themselves, and line ends are characters like others. -/
example : expressionOf ['%', 'a', '.', '_', '$'] =
    ['^', '.', '*', 'a', '\\', '.', '.', '\\', '$', '$'] ∧
    like ['%', 'a', '.', '_', '$'] ['\n', 'A', '.', '\n', '$'] = true := by
  decide

end Text
end Audience
