import Audience.Text.Like

/-!
# What a wildcard pattern describes

## Patterns as lists of wildcards

The matcher keeps a mark for every end of the text.  What a pattern describes is said here
by a relation that goes through pattern and text together, and the marks are shown to be
right for this relation.
-/

namespace Audience
namespace Text

inductive Wildcard where
  | anything
  | anyChar
  | exactly (c : Char)
  deriving DecidableEq, Repr

inductive Describes : List Wildcard -> List Char -> Prop where
  | nil : Describes [] []
  | anything {ws : List Wildcard} {rest : List Char} (piece : List Char)
      (h : Describes ws rest) : Describes (.anything :: ws) (piece ++ rest)
  | anyChar {ws : List Wildcard} {rest : List Char} (c : Char)
      (h : Describes ws rest) : Describes (.anyChar :: ws) (c :: rest)
  | exactly {ws : List Wildcard} {rest : List Char} (c : Char)
      (h : Describes ws rest) : Describes (.exactly c :: ws) (c :: rest)

def wildcardOf (c : Char) : Wildcard :=
  if c == '%' then .anything else if c == '_' then .anyChar else .exactly (foldChar c)

theorem describes_nil_iff {s : List Char} : Describes [] s <-> s = [] := by
  constructor
  · intro h
    cases h
    rfl
  · intro h
    rcases h with rfl
    exact Describes.nil

theorem describes_anything_iff {ws : List Wildcard} {s : List Char} :
    Describes (.anything :: ws) s <->
      exists piece rest, s = piece ++ rest ∧ Describes ws rest := by
  constructor
  · intro h
    cases h with
    | anything piece h =>
        exact ⟨piece, _, rfl, h⟩
  · intro h
    rcases h with ⟨piece, rest, rfl, h⟩
    exact h.anything piece

theorem describes_anyChar_iff {ws : List Wildcard} {s : List Char} :
    Describes (.anyChar :: ws) s <->
      exists c rest, s = c :: rest ∧ Describes ws rest := by
  constructor
  · intro h
    cases h with
    | anyChar c h =>
        exact ⟨c, _, rfl, h⟩
  · intro h
    rcases h with ⟨c, rest, rfl, h⟩
    exact h.anyChar c

theorem describes_exactly_iff {ws : List Wildcard} {s : List Char} {c : Char} :
    Describes (.exactly c :: ws) s <->
      exists rest, s = c :: rest ∧ Describes ws rest := by
  constructor
  · intro h
    cases h with
    | exactly c h =>
        exact ⟨_, rfl, h⟩
  · intro h
    rcases h with ⟨rest, rfl, h⟩
    exact h.exactly c

theorem describes_percent_iff {ws : List Wildcard} {s : List Char} :
    Describes (wildcardOf '%' :: ws) (s.map foldChar) <->
      exists before rest, s = before ++ rest ∧ Describes ws (rest.map foldChar) := by
  have hpercent : wildcardOf '%' = .anything := rfl
  rw [hpercent, describes_anything_iff]
  constructor
  · intro h
    rcases h with ⟨front, back, hs, h⟩
    rcases List.map_eq_append_iff.mp hs with ⟨before, rest, rfl, _, rfl⟩
    exact ⟨before, rest, rfl, h⟩
  · intro h
    rcases h with ⟨before, rest, rfl, h⟩
    exact ⟨before.map foldChar, rest.map foldChar, List.map_append, h⟩

/-!
## Marks of the ends of a text
-/

/-- There is a mark for every end of the text, from the whole text to the empty one, and the
marked ends are those with the property. -/
inductive Marks (p : List Char -> Prop) : List Bool -> List Char -> Prop where
  | nil {mark : Bool} (h : mark = true <-> p []) : Marks p [mark] []
  | cons {mark : Bool} {marks : List Bool} {c : Char} {s : List Char}
      (h : mark = true <-> p (c :: s)) (hs : Marks p marks s) : Marks p (mark :: marks) (c :: s)

theorem Marks.headD {p : List Char -> Prop} {marks : List Bool} {s : List Char}
    (h : Marks p marks s) : marks.headD false = true <-> p s := by
  cases h with
  | nil h =>
      exact h
  | cons h _ =>
      exact h

theorem Marks.congr {p q : List Char -> Prop} {marks : List Bool} {s : List Char}
    (h : Marks p marks s) (hpq : forall rest, p rest <-> q rest) : Marks q marks s := by
  induction h with
  | nil h =>
      exact Marks.nil (h.trans (hpq []))
  | cons h _ ih =>
      exact Marks.cons (h.trans (hpq _)) ih

theorem marks_empty (s : List Char) :
    Marks (· = []) (List.replicate s.length false ++ [true]) s := by
  induction s with
  | nil =>
      exact Marks.nil (by simp)
  | cons c s ih =>
      exact Marks.cons (by simp) ih

theorem Marks.later {p : List Char -> Prop} {marks : List Bool} {s : List Char}
    (h : Marks p marks s) :
    Marks (fun t => exists piece rest, t = piece ++ rest ∧ p rest) (markedLater marks) s := by
  induction h with
  | nil h =>
      apply Marks.nil
      rw [Bool.or_eq_true, h]
      constructor
      · intro h
        rcases h with hp | hfalse
        · exact ⟨[], [], rfl, hp⟩
        · cases hfalse
      · intro h
        rcases h with ⟨piece, rest, heq, hp⟩
        rw [(List.append_eq_nil_iff.mp heq.symm).right] at hp
        exact Or.inl hp
  | @cons mark marks c s h hs ih =>
      apply Marks.cons _ ih
      rw [Bool.or_eq_true, h, ih.headD]
      constructor
      · intro h
        rcases h with hp | ⟨piece, rest, rfl, hp⟩
        · exact ⟨[], _, rfl, hp⟩
        · exact ⟨c :: piece, rest, rfl, hp⟩
      · intro h
        rcases h with ⟨piece, rest, heq, hp⟩
        cases piece with
        | nil =>
            rw [heq]
            exact Or.inl hp
        | cons d piece =>
            cases heq
            exact Or.inr ⟨piece, rest, rfl, hp⟩

theorem Marks.after {p : List Char -> Prop} {marks : List Bool} {s : List Char}
    (h : Marks p marks s) (accepts : Char -> Bool) :
    Marks (fun t => exists c rest, t = c :: rest ∧ accepts c = true ∧ p rest)
      (markedAfter accepts s marks) s := by
  unfold markedAfter
  induction h with
  | nil h =>
      exact Marks.nil (by simp)
  | @cons mark marks c s h hs ih =>
      have hhere := hs.headD
      cases marks with
      | nil =>
          cases hs
      | cons next marks =>
          refine Marks.cons ?_ ih
          rw [Bool.and_eq_true]
          constructor
          · intro h
            rcases h with ⟨haccepts, hnext⟩
            exact ⟨c, s, rfl, haccepts, hhere.mp hnext⟩
          · intro h
            rcases h with ⟨d, rest, heq, haccepts, hp⟩
            cases heq
            exact ⟨haccepts, hhere.mpr hp⟩

private theorem marks_matchedEnds (s pattern : List Char) :
    Marks (Describes (pattern.map wildcardOf)) (matchedEnds s pattern) s := by
  induction pattern with
  | nil =>
      exact (marks_empty s).congr fun rest => describes_nil_iff.symm
  | cons c pattern ih =>
      rw [List.map_cons, matchedEnds, wildcardOf]
      split
      · exact ih.later.congr fun rest => describes_anything_iff.symm
      · split
        · apply (ih.after _).congr
          intro rest
          simp [describes_anyChar_iff]
        · apply (ih.after _).congr
          intro rest
          rw [describes_exactly_iff]
          constructor
          · intro h
            rcases h with ⟨d, tail, rfl, hd, h⟩
            rw [beq_iff_eq.mp hd]
            exact ⟨tail, rfl, h⟩
          · intro h
            rcases h with ⟨tail, rfl, h⟩
            exact ⟨_, tail, rfl, beq_self_eq_true _, h⟩

/-- A text matches a pattern if the pattern describes it from end to end. -/
theorem like_iff (pattern text : List Char) :
    like pattern text = true <-> Describes (pattern.map wildcardOf) (text.map foldChar) :=
  (marks_matchedEnds (text.map foldChar) pattern).headD

end Text
end Audience
