import Audience.Proofs.Occurrences
import Audience.Statement.Piece

/-!
# Tokens in quoted strings

## Counting across seams

A token that begins with a brace and holds no quote, backslash, parenthesis or control
character is left alone by quoting, and an occurrence of it lies on one side of any such
character.  So quoting a string neither makes nor unmakes an occurrence.
-/

namespace Audience

namespace Text

@[simp] theorem occurrences_nil (mark : List Char) : occurrences mark [] = 0 := by
  rw [occurrences, around_nil]
  rfl

theorem occurrences_mark {mark : List Char} (hmark : mark ≠ []) (rest : List Char) :
    occurrences mark (mark ++ rest) = occurrences mark rest + 1 := by
  have hrest := List.length_pos_iff.mpr (around_ne_nil mark rest)
  rw [occurrences, occurrences, around_append_left hmark, List.length_cons]
  omega

theorem occurrences_cons {mark : List Char} {c : Char} {rest : List Char}
    (hmark : mark ≠ []) (hbegins : ¬ mark <+: c :: rest) :
    occurrences mark (c :: rest) = occurrences mark rest := by
  rw [occurrences, occurrences, around_cons hmark hbegins, List.length_modifyHead]

theorem occurrences_append_right {first : Char} {stem front : List Char}
    (h : first ∉ front) (rest : List Char) :
    occurrences (first :: stem) (front ++ rest) = occurrences (first :: stem) rest := by
  induction front with
  | nil =>
      rfl
  | cons c front ih =>
      rw [List.mem_cons, not_or] at h
      rw [List.cons_append, occurrences_cons (List.cons_ne_nil _ _), ih h.right]
      intro hbegins
      exact h.left (List.cons_prefix_cons.mp hbegins).left

/-- No occurrence goes beyond a character that the mark does not hold. -/
theorem prefix_of_prefix_seam {mark : List Char} {seam : Char} (hseam : seam ∉ mark)
    (front : List Char) {rest : List Char} (h : mark <+: front ++ seam :: rest) :
    mark <+: front := by
  have hfront : front <+: front ++ seam :: rest := List.prefix_append _ _
  rcases Nat.le_total mark.length front.length with hle | hle
  · exact List.prefix_of_prefix_length_le h hfront hle
  · rcases List.prefix_of_prefix_length_le hfront h hle with ⟨tail, rfl⟩
    cases tail with
    | nil =>
        rw [List.append_nil]
    | cons c tail =>
        have hsame := (List.prefix_append_right_inj front).mp h
        rw [(List.cons_prefix_cons.mp hsame).left] at hseam
        exact absurd (List.mem_append_right front List.mem_cons_self) hseam

theorem occurrences_seam {mark : List Char} (hmark : mark ≠ []) {seam : Char}
    (hseam : seam ∉ mark) (front rest : List Char) :
    occurrences mark (front ++ seam :: rest) =
      occurrences mark front + occurrences mark rest := by
  match front with
  | [] =>
      rw [occurrences_nil, Nat.zero_add, List.nil_append, occurrences_cons hmark]
      intro hbegins
      exact hmark (List.prefix_nil.mp (prefix_of_prefix_seam hseam [] hbegins))
  | c :: front =>
      rcases mark_cases mark c front with htail | hbegins
      · rcases htail with ⟨tail, htail⟩
        have hshort := length_lt_of_append hmark htail
        rw [htail, List.append_assoc, occurrences_mark hmark, occurrences_mark hmark,
          occurrences_seam hmark hseam tail rest]
        omega
      · rw [List.cons_append, occurrences_cons hmark hbegins, occurrences_cons hmark,
          occurrences_seam hmark hseam front rest]
        intro hwhole
        exact hbegins (prefix_of_prefix_seam hseam (c :: front) hwhole)
termination_by front.length
decreasing_by
  · exact hshort
  · exact Nat.lt_succ_self front.length

/-!
## Replacing across seams
-/

private theorem around_seam {mark : List Char} (hmark : mark ≠ []) {seam : Char}
    (hseam : seam ∉ mark)
    {front : List Char} (h : ¬ mark <:+: front) (rest : List Char) :
    around mark (front ++ seam :: rest) =
      (around mark rest).modifyHead ((front ++ [seam]) ++ ·) := by
  induction front with
  | nil =>
      rw [List.nil_append, around_cons hmark]
      · rfl
      · intro hbegins
        exact hmark (List.prefix_nil.mp (prefix_of_prefix_seam hseam [] hbegins))
  | cons c front ih =>
      rw [List.infix_cons_iff, not_or] at h
      rw [List.cons_append, around_cons hmark, ih h.right]
      · cases around mark rest <;> rfl
      · intro hbegins
        exact h.left (prefix_of_prefix_seam hseam (c :: front) hbegins)

theorem replaceAll_seam {mark : List Char} (hmark : mark ≠ []) {seam : Char}
    (hseam : seam ∉ mark) {front rest : List Char} (hfront : ¬ mark <:+: front)
    (hrest : ¬ mark <:+: rest) (replacement : List Char) :
    replaceAll mark replacement (front ++ seam :: (mark ++ rest)) =
      front ++ seam :: (replacement ++ rest) := by
  unfold replaceAll
  rw [around_seam hmark hseam hfront, around_append_left hmark,
    around_eq_singleton hmark hrest]
  simp [List.intercalate_cons_cons]

/-!
## Characters written one by one
-/

section

variable {plain : Char -> Prop} {write : Char -> List Char}

private theorem flatMap_plain (hplain : forall c, plain c -> write c = [c]) {s : List Char}
    (hs : forall c, c ∈ s -> plain c) : s.flatMap write = s := by
  induction s with
  | nil =>
      rfl
  | cons c s ih =>
      rw [List.forall_mem_cons] at hs
      rw [List.flatMap_cons, hplain c hs.left, ih hs.right]
      rfl

private theorem prefix_of_prefix_flatMap (hplain : forall c, plain c -> write c = [c])
    (hother : forall c, ¬ plain c -> exists d rest, write c = d :: rest ∧ ¬ plain d)
    {mark s : List Char} (hmark : forall c, c ∈ mark -> plain c)
    (h : mark <+: s.flatMap write) : mark <+: s := by
  induction mark generalizing s with
  | nil =>
      exact List.nil_prefix
  | cons m mark ih =>
      rw [List.forall_mem_cons] at hmark
      cases s with
      | nil =>
          cases List.prefix_nil.mp h
      | cons c s =>
          rw [List.flatMap_cons] at h
          by_cases hc : plain c
          · rw [hplain c hc, List.singleton_append, List.cons_prefix_cons] at h
            rw [List.cons_prefix_cons]
            exact ⟨h.left, ih hmark.right h.right⟩
          · rcases hother c hc with ⟨d, rest, hwrite, hd⟩
            rw [hwrite, List.cons_append, List.cons_prefix_cons] at h
            rw [← h.left] at hd
            exact absurd hmark.left hd

/-- Characters that are written otherwise make no occurrence and unmake none. -/
theorem occurrences_flatMap (plain : Char -> Prop) (hplain : forall c, plain c -> write c = [c])
    (hother : forall c, ¬ plain c -> exists d rest, write c = d :: rest ∧ ¬ plain d)
    {first : Char} {stem : List Char} (hfirst : forall c, ¬ plain c -> first ∉ write c)
    (hmark : forall c, c ∈ first :: stem -> plain c) (s : List Char) :
    occurrences (first :: stem) (s.flatMap write) = occurrences (first :: stem) s := by
  match s with
  | [] =>
      rfl
  | c :: s =>
      rcases mark_cases (first :: stem) c s with htail | hbegins
      · rcases htail with ⟨tail, htail⟩
        have hshort := length_lt_of_append (List.cons_ne_nil _ _) htail
        rw [htail, List.flatMap_append, flatMap_plain hplain hmark,
          occurrences_mark (List.cons_ne_nil _ _), occurrences_mark (List.cons_ne_nil _ _),
          occurrences_flatMap plain hplain hother hfirst hmark tail]
      · rw [occurrences_cons (List.cons_ne_nil _ _) hbegins, List.flatMap_cons]
        by_cases hc : plain c
        · have hwritten : ¬ first :: stem <+: c :: s.flatMap write := by
            intro hwritten
            apply hbegins
            apply prefix_of_prefix_flatMap hplain hother hmark
            rw [List.flatMap_cons, hplain c hc]
            exact hwritten
          rw [hplain c hc, List.singleton_append,
            occurrences_cons (List.cons_ne_nil _ _) hwritten,
            occurrences_flatMap plain hplain hother hfirst hmark s]
        · rw [occurrences_append_right (hfirst c hc),
            occurrences_flatMap plain hplain hother hfirst hmark s]
termination_by s.length
decreasing_by
  · exact hshort
  · exact Nat.lt_succ_self s.length
  · exact Nat.lt_succ_self s.length

end

end Text

namespace Statement

/-!
## Quoted strings
-/

def openBrace : Char := '\x7b'

def isMarking (c : Char) : Bool :=
  c == doubleQuote || c == singleQuote || c == '\\' || c == '(' || c == ')' || isControl c

/-- A token that begins with a brace and that quoting leaves alone. -/
structure IsToken (mark : List Char) : Prop where
  begins : exists stem, mark = openBrace :: stem
  plain : forall c, c ∈ mark -> isMarking c = false

theorem IsToken.ne_nil {mark : List Char} (h : IsToken mark) : mark ≠ [] := by
  rcases h.begins with ⟨stem, rfl⟩
  exact List.cons_ne_nil _ _

theorem IsToken.not_mem {mark : List Char} (h : IsToken mark) {c : Char}
    (hc : isMarking c = true) : c ∉ mark := by
  intro hmem
  rw [h.plain c hmem] at hc
  cases hc

theorem occurrences_nameChars {mark : List Char} (h : IsToken mark) (s : List Char) :
    Text.occurrences mark (s.flatMap nameChar) = Text.occurrences mark s := by
  rcases h.begins with ⟨stem, rfl⟩
  apply Text.occurrences_flatMap (· ≠ doubleQuote)
  · intro c hc
    rw [nameChar, if_neg (by simpa using hc)]
  · intro c hc
    rw [not_not.mp hc]
    exact ⟨doubleQuote, [doubleQuote], rfl, by simp⟩
  · intro c hc
    rw [not_not.mp hc]
    decide
  · intro c hc heq
    rw [heq] at hc
    exact h.not_mem rfl hc

def isEscaped (c : Char) : Bool :=
  c == singleQuote || c == '\\' || isControl c

theorem isEscaped_lt {c : Char} (h : isEscaped c = true) : c.toNat < 128 := by
  simp only [isEscaped, Bool.or_eq_true, beq_iff_eq] at h
  rcases h with (rfl | rfl) | h
  · decide
  · decide
  · simp only [isControl, Bool.or_eq_true, decide_eq_true_eq, beq_iff_eq] at h
    omega

theorem escapedChar_of_isEscaped {c : Char} (h : isEscaped c = true) :
    (escapedChar c).head? = some '\\' ∧ openBrace ∉ escapedChar c := by
  have hsmall : forall n, n < 128 -> isEscaped (Char.ofNat n) = true ->
      (escapedChar (Char.ofNat n)).head? = some '\\' ∧
        openBrace ∉ escapedChar (Char.ofNat n) := by
    decide
  have hc := hsmall c.toNat (isEscaped_lt h)
  rw [Char.ofNat_toNat] at hc
  exact hc h

private theorem occurrences_escapedChars {mark : List Char} (h : IsToken mark) (s : List Char) :
    Text.occurrences mark (s.flatMap escapedChar) = Text.occurrences mark s := by
  rcases h.begins with ⟨stem, rfl⟩
  apply Text.occurrences_flatMap fun c => isEscaped c = false
  · intro c hc
    simp only [isEscaped, Bool.or_eq_false_iff] at hc
    simp [escapedChar, hc.left.left, hc.left.right, hc.right]
  · intro c hc
    rw [Bool.not_eq_false] at hc
    have hwritten := (escapedChar_of_isEscaped hc).left
    rcases List.head?_eq_some_iff.mp hwritten with ⟨rest, hrest⟩
    exact ⟨'\\', rest, hrest, by decide⟩
  · intro c hc
    rw [Bool.not_eq_false] at hc
    exact (escapedChar_of_isEscaped hc).right
  · intro c hc
    have hmarking := h.plain c hc
    simp only [isMarking, isEscaped, Bool.or_eq_false_iff] at hmarking ⊢
    exact ⟨⟨hmarking.left.left.left.left.right, hmarking.left.left.left.right⟩,
      hmarking.right⟩

theorem occurrences_quotedName {mark : List Char} (h : IsToken mark) (s rest : List Char) :
    Text.occurrences mark (quotedName s ++ rest) =
      Text.occurrences mark s + Text.occurrences mark rest := by
  have hquote : doubleQuote ∉ mark := h.not_mem rfl
  have hopen := Text.occurrences_seam h.ne_nil hquote []
    (s.flatMap nameChar ++ doubleQuote :: rest)
  rw [quotedName, List.append_assoc, List.cons_append, List.singleton_append,
    ← List.nil_append (doubleQuote :: _), hopen, Text.occurrences_nil, Nat.zero_add,
    Text.occurrences_seam h.ne_nil hquote, occurrences_nameChars h]

theorem occurrences_quotedText {mark : List Char} (h : IsToken mark) (s rest : List Char) :
    Text.occurrences mark (quotedText s ++ rest) =
      Text.occurrences mark s + Text.occurrences mark rest := by
  have hquote : singleQuote ∉ mark := h.not_mem rfl
  have hbody : forall front body : List Char, openBrace ∉ front ->
      Text.occurrences mark (front ++ singleQuote :: (body ++ singleQuote :: rest)) =
        Text.occurrences mark body + Text.occurrences mark rest := by
    intro front body hfront
    rcases h.begins with ⟨stem, hmark⟩
    rw [Text.occurrences_seam h.ne_nil hquote, Text.occurrences_seam h.ne_nil hquote]
    rw [← List.append_nil front, hmark, Text.occurrences_append_right hfront,
      Text.occurrences_nil, Nat.zero_add]
  unfold quotedText
  split
  · rw [← occurrences_escapedChars h s, ← hbody ['E'] _ (by decide)]
    simp
  · rw [← hbody [] s (by decide)]
    simp

end Statement
end Audience
