import Audience.Text.Case

/-!
# Regular expressions

## Syntax

The part of the common syntax of regular expressions that wildcard patterns need: anchors,
the dot, the star behind a part, and characters.  A character that means something in the
syntax stands for itself behind a backslash.
-/

namespace Audience
namespace Text

inductive Regular where
  | start
  | finish
  | anyChar
  | char (c : Char)
  /-- The part any number of times, one after another. -/
  | many (part : Regular)
  deriving DecidableEq, Repr

namespace Regular

/-- The characters that may stand behind a backslash to mean themselves. -/
def metaChars : List Char :=
  ['\\', '.', '+', '*', '?', '(', ')', '|', '[', ']', '\x7b', '\x7d', '^', '$', '#', '&', '-',
    '~']

/-- The characters that begin or end what is not read here: other repetitions, groups,
alternatives and classes. -/
def otherOperators : List Char :=
  ['+', '?', '(', ')', '|', '[', '\x7b']

def escaped (c : Char) : List Char :=
  if metaChars.contains c then ['\\', c] else [c]

def ofChar (c : Char) : Regular :=
  if c == '^' then .start
  else if c == '$' then .finish
  else if c == '.' then .anyChar
  else .char c

/-- Reads the parts of an expression; those already read come first, the last one at the
head of the list. -/
def readAfter : List Regular -> List Char -> Option (List Regular)
  | parts, [] => some parts.reverse
  | parts, c :: rest =>
      if c == '\\' then
        match rest with
        | d :: rest => if metaChars.contains d then readAfter (.char d :: parts) rest else none
        | [] => none
      else if c == '*' then
        match parts with
        | last :: parts => readAfter (.many last :: parts) rest
        | [] => none
      else if otherOperators.contains c then none
      else readAfter (ofChar c :: parts) rest

def read? (expression : List Char) : Option (List Regular) :=
  readAfter [] expression

theorem otherOperators_subset : otherOperators ⊆ metaChars := by decide

theorem readAfter_cons {c : Char} (hescape : c ≠ '\\') (hstar : c ≠ '*')
    (hother : c ∉ otherOperators) (parts : List Regular) (rest : List Char) :
    readAfter parts (c :: rest) = readAfter (ofChar c :: parts) rest := by
  conv =>
    lhs
    unfold readAfter
  simp [hescape, hstar, hother]

theorem readAfter_dot (parts : List Regular) (rest : List Char) :
    readAfter parts ('.' :: rest) = readAfter (.anyChar :: parts) rest :=
  readAfter_cons (by decide) (by decide) (by decide) parts rest

theorem readAfter_star (part : Regular) (parts : List Regular) (rest : List Char) :
    readAfter (part :: parts) ('*' :: rest) = readAfter (.many part :: parts) rest := by
  conv =>
    lhs
    unfold readAfter
  simp

theorem readAfter_escaped (parts : List Regular) (c : Char) (rest : List Char) :
    readAfter parts (escaped c ++ rest) = readAfter (.char c :: parts) rest := by
  unfold escaped
  by_cases hmeta : metaChars.contains c = true
  · rw [if_pos hmeta]
    simp only [List.cons_append, List.nil_append, readAfter, beq_self_eq_true, if_true, hmeta]
  · rw [if_neg hmeta]
    have hplain : c ∉ metaChars := by
      simpa using hmeta
    have hchar : ofChar c = .char c := by
      simp only [metaChars, List.mem_cons, not_or] at hplain
      simp [ofChar, hplain]
    have hother : c ∉ otherOperators := fun h => hplain (otherOperators_subset h)
    rw [List.singleton_append, readAfter_cons _ _ hother, hchar]
    · intro h
      rcases h with rfl
      exact hplain (by decide)
    · intro h
      rcases h with rfl
      exact hplain (by decide)

/-!
## Matches

Case is ignored and the dot stands for every character, line ends included.  The anchors
stand for the two ends of the whole text and nothing else.  So what a part matches depends
on what stands before and behind it.
-/

/-- The part matches the piece of a text between what is before it and what is after it. -/
inductive Spans : Regular -> (before piece after : List Char) -> Prop where
  | start {after : List Char} : Spans .start [] [] after
  | finish {before : List Char} : Spans .finish before [] []
  | anyChar {before after : List Char} (c : Char) : Spans .anyChar before [c] after
  | char {before after : List Char} {c d : Char} (h : foldChar d = foldChar c) :
      Spans (.char c) before [d] after
  | manyNone {part : Regular} {before after : List Char} : Spans (.many part) before [] after
  | manyMore {part : Regular} {before first rest after : List Char}
      (hfirst : Spans part before first (rest ++ after))
      (hrest : Spans (.many part) (before ++ first) rest after) :
      Spans (.many part) before (first ++ rest) after

/-- The parts match the piece one after another. -/
inductive SpansInTurn : List Regular -> (before piece after : List Char) -> Prop where
  | nil {before after : List Char} : SpansInTurn [] before [] after
  | cons {part : Regular} {parts : List Regular} {before first rest after : List Char}
      (hfirst : Spans part before first (rest ++ after))
      (hrest : SpansInTurn parts (before ++ first) rest after) :
      SpansInTurn (part :: parts) before (first ++ rest) after

def FoundIn (parts : List Regular) (text : List Char) : Prop :=
  exists before piece after, text = before ++ piece ++ after ∧ SpansInTurn parts before piece after

variable {before piece after : List Char}

theorem spans_start_iff : Spans .start before piece after <-> before = [] ∧ piece = [] := by
  constructor
  · intro h
    cases h
    exact ⟨rfl, rfl⟩
  · intro h
    rcases h with ⟨rfl, rfl⟩
    exact Spans.start

theorem spans_finish_iff : Spans .finish before piece after <-> piece = [] ∧ after = [] := by
  constructor
  · intro h
    cases h
    exact ⟨rfl, rfl⟩
  · intro h
    rcases h with ⟨rfl, rfl⟩
    exact Spans.finish

theorem spans_anyChar_iff : Spans .anyChar before piece after <-> exists c, piece = [c] := by
  constructor
  · intro h
    cases h with
    | anyChar c =>
        exact ⟨c, rfl⟩
  · intro h
    rcases h with ⟨c, rfl⟩
    exact Spans.anyChar c

theorem spans_char_iff {c : Char} :
    Spans (.char c) before piece after <-> exists d, piece = [d] ∧ foldChar d = foldChar c := by
  constructor
  · intro h
    cases h with
    | char h =>
        exact ⟨_, rfl, h⟩
  · intro h
    rcases h with ⟨d, rfl, h⟩
    exact Spans.char h

theorem spans_many_anyChar (before piece after : List Char) :
    Spans (.many .anyChar) before piece after := by
  induction piece generalizing before with
  | nil =>
      exact Spans.manyNone
  | cons c piece ih =>
      exact Spans.manyMore (Spans.anyChar c) (ih (before ++ [c]))

theorem spansInTurn_nil_iff : SpansInTurn [] before piece after <-> piece = [] := by
  constructor
  · intro h
    cases h
    rfl
  · intro h
    rcases h with rfl
    exact SpansInTurn.nil

theorem spansInTurn_cons_iff {part : Regular} {parts : List Regular} :
    SpansInTurn (part :: parts) before piece after <->
      exists first rest, piece = first ++ rest ∧ Spans part before first (rest ++ after) ∧
        SpansInTurn parts (before ++ first) rest after := by
  constructor
  · intro h
    cases h with
    | cons hfirst hrest =>
        exact ⟨_, _, rfl, hfirst, hrest⟩
  · intro h
    rcases h with ⟨first, rest, rfl, hfirst, hrest⟩
    exact SpansInTurn.cons hfirst hrest

end Regular
end Text
end Audience
