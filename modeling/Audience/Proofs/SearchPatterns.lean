import Audience.Proofs.Wildcards

/-!
# Patterns of a database

## Lower case of ASCII texts

A search compares lower-case texts, and the matcher compares texts in folded case.  For
ASCII characters both are the same.
-/

namespace Audience

namespace Text

def IsAscii (s : List Char) : Prop :=
  forall c, c ∈ s -> c.toNat < 128

instance (s : List Char) : Decidable (IsAscii s) :=
  List.decidableBAll _ s

theorem IsAscii.cons {c : Char} {s : List Char} (h : IsAscii (c :: s)) :
    c.toNat < 128 ∧ IsAscii s :=
  List.forall_mem_cons.mp h

theorem of_small {p : Char -> Prop} (hsmall : forall n, n < 128 -> p (Char.ofNat n)) {c : Char}
    (hc : c.toNat < 128) : p c := by
  have h := hsmall c.toNat hc
  rwa [Char.ofNat_toNat] at h

theorem toLower_small {c : Char} (hc : c.toNat < 128) : c.toLower.toNat < 128 :=
  of_small (p := fun c => c.toLower.toNat < 128) (by decide) hc

theorem toLower_toLower {c : Char} (hc : c.toNat < 128) : c.toLower.toLower = c.toLower :=
  of_small (p := fun c => c.toLower.toLower = c.toLower) (by decide) hc

theorem toLower_eq_backslash {c : Char} (hc : c.toNat < 128) :
    c.toLower = '\\' <-> c = '\\' :=
  of_small (p := fun c => c.toLower = '\\' <-> c = '\\') (by decide) hc

theorem toLower_eq_zero {c : Char} (hc : c.toNat < 128) : c.toLower = '\x00' <-> c = '\x00' :=
  of_small (p := fun c => c.toLower = '\x00' <-> c = '\x00') (by decide) hc

theorem foldChar_small {c : Char} (hc : c.toNat < 128) : foldChar c = c.toLower :=
  if_pos hc

theorem fold_ascii {s : List Char} (h : IsAscii s) : s.map foldChar = s.map Char.toLower :=
  List.map_congr_left fun c hc => foldChar_small (h c hc)

private theorem lowerAfter_ascii {s : List Char} (h : IsAscii s) (before : List Char) :
    lowerAfter before s = s.map Char.toLower := by
  induction s generalizing before with
  | nil =>
      rfl
  | cons c s ih =>
      rcases h.cons with ⟨hc, hs⟩
      have hsigma : (c == '\u03A3') = false := by
        rw [beq_eq_false_iff_ne]
        intro h
        rcases h with rfl
        exact absurd hc (by decide)
      have hdotted : (c == '\u0130') = false := by
        rw [beq_eq_false_iff_ne]
        intro h
        rcases h with rfl
        exact absurd hc (by decide)
      have hlower : lowerChar c = c.toLower := if_pos hc
      simp [lowerAfter, hsigma, hdotted, hlower, ih hs]

theorem lowered_ascii {s : String} (h : IsAscii s.toList) :
    (lowered s).toList = s.toList.map Char.toLower := by
  rw [lowered, String.toList_ofList, lower, lowerAfter_ascii h]

end Text

/-!
## Patterns with a character that escapes
-/

namespace Sql

open Text

/-- What a character stands for in a pattern unless a backslash stands in front of it. -/
def plainWildcard (c : Char) : Wildcard :=
  if c == '%' then .anything else if c == '_' then .anyChar else .exactly c

/-- The wildcards of a pattern.  The character behind a backslash stands for itself; a
pattern that ends in a backslash with nothing behind it is no pattern at all. -/
def wildcards? : List Char -> Option (List Wildcard)
  | [] => some []
  | [c] => if c = '\\' then none else some [plainWildcard c]
  | c :: d :: rest =>
      if c = '\\' then (wildcards? rest).map (Wildcard.exactly d :: ·)
      else (wildcards? (d :: rest)).map (plainWildcard c :: ·)

def Matches (pattern text : List Char) : Prop :=
  exists ws, wildcards? pattern = some ws ∧ Describes ws text

theorem wildcards_cons {c : Char} (hc : c ≠ '\\') (rest : List Char) :
    wildcards? (c :: rest) = (wildcards? rest).map (plainWildcard c :: ·) := by
  cases rest with
  | nil =>
      simp [wildcards?, hc]
  | cons d rest =>
      simp [wildcards?, hc]

theorem wildcards_plain {pattern : List Char} (h : '\\' ∉ pattern) :
    wildcards? pattern = some (pattern.map plainWildcard) := by
  induction pattern with
  | nil =>
      rfl
  | cons c pattern ih =>
      rw [List.mem_cons, not_or] at h
      rw [wildcards_cons (Ne.symm h.left), ih h.right]
      rfl

theorem plainWildcard_toLower {c : Char} (hc : c.toNat < 128) :
    plainWildcard c.toLower = wildcardOf c := by
  rw [wildcardOf, foldChar_small hc]
  exact of_small (p := fun c => plainWildcard c.toLower =
    if c == '%' then .anything else if c == '_' then .anyChar else .exactly c.toLower)
    (by decide) hc

private theorem backslash_notMem_lower {pattern : List Char} (hascii : IsAscii pattern)
    (h : '\\' ∉ pattern) : '\\' ∉ pattern.map Char.toLower := by
  intro hmem
  rcases List.mem_map.mp hmem with ⟨c, hc, hlower⟩
  rw [(toLower_eq_backslash (hascii c hc)).mp hlower] at hc
  exact h hc

/-- Without a backslash in the pattern a database and the matcher find the same texts. -/
theorem matches_lower_iff {pattern text : List Char} (hascii : IsAscii pattern)
    (htext : IsAscii text) (h : '\\' ∉ pattern) :
    Matches (pattern.map Char.toLower) (text.map Char.toLower) <->
      like pattern text = true := by
  have hwildcards : (pattern.map Char.toLower).map plainWildcard = pattern.map wildcardOf := by
    rw [List.map_map]
    exact List.map_congr_left fun c hc => plainWildcard_toLower (hascii c hc)
  rw [like_iff, fold_ascii htext, Matches, wildcards_plain (backslash_notMem_lower hascii h),
    hwildcards]
  constructor
  · intro h
    rcases h with ⟨ws, hws, hdescribes⟩
    cases hws
    exact hdescribes
  · intro hdescribes
    exact ⟨_, rfl, hdescribes⟩

/-!
## Patterns with a backslash

A backslash in the pattern has to occur in every text that the matcher finds.  A database
asks for fewer of them, since at least every other one only escapes.
-/

def sample : List Wildcard -> List Char
  | [] => []
  | .anything :: ws => sample ws
  | .anyChar :: ws => 'x' :: sample ws
  | .exactly c :: ws => c :: sample ws

def literals : List Wildcard -> List Char
  | [] => []
  | .exactly c :: ws => c :: literals ws
  | .anything :: ws | .anyChar :: ws => literals ws

theorem describes_sample (ws : List Wildcard) : Describes ws (sample ws) := by
  induction ws with
  | nil =>
      exact Describes.nil
  | cons w ws ih =>
      cases w with
      | anything =>
          exact ih.anything []
      | anyChar =>
          exact ih.anyChar 'x'
      | exactly c =>
          exact ih.exactly c

theorem literals_sublist {ws : List Wildcard} {s : List Char} (h : Describes ws s) :
    (literals ws).Sublist s := by
  induction h with
  | nil =>
      exact List.Sublist.refl []
  | anything piece _ ih =>
      exact ih.trans (List.sublist_append_right piece _)
  | anyChar c _ ih =>
      exact ih.cons c
  | exactly c _ ih =>
      exact ih.cons_cons c

theorem count_sample {mark : Char} (hmark : mark ≠ 'x') (ws : List Wildcard) :
    (sample ws).count mark = (literals ws).count mark := by
  induction ws with
  | nil =>
      rfl
  | cons w ws ih =>
      cases w with
      | anything =>
          exact ih
      | anyChar =>
          rw [sample, literals, List.count_cons_of_ne (Ne.symm hmark), ih]
      | exactly c =>
          rw [sample, literals, List.count_cons, List.count_cons, ih]

theorem mem_sample {c : Char} {ws : List Wildcard} (h : c ∈ sample ws) :
    c = 'x' ∨ c ∈ literals ws := by
  induction ws with
  | nil =>
      cases h
  | cons w ws ih =>
      cases w with
      | anything =>
          exact ih h
      | anyChar =>
          rcases List.mem_cons.mp h with rfl | h
          · exact Or.inl rfl
          · exact ih h
      | exactly d =>
          rcases List.mem_cons.mp h with rfl | h
          · exact Or.inr List.mem_cons_self
          · exact (ih h).imp_right (List.mem_cons_of_mem d)

theorem literals_plain (c : Char) (ws : List Wildcard) :
    literals (plainWildcard c :: ws) = literals ws ∨
      literals (plainWildcard c :: ws) = c :: literals ws := by
  unfold plainWildcard
  split
  · exact Or.inl rfl
  · split
    · exact Or.inl rfl
    · exact Or.inr rfl

theorem literals_of_wildcards {pattern : List Char} {ws : List Wildcard}
    (h : wildcards? pattern = some ws) :
    literals ws ⊆ pattern ∧ 2 * (literals ws).count '\\' <= pattern.count '\\' := by
  match pattern with
  | [] =>
      cases h
      exact ⟨List.Subset.refl [], Nat.le_refl 0⟩
  | c :: rest =>
      by_cases hc : c = '\\'
      · cases rest with
        | nil =>
            simp [wildcards?, hc] at h
        | cons d rest =>
            -- The pair stands for its second character.
            rw [wildcards?, if_pos hc, Option.map_eq_some_iff] at h
            rcases h with ⟨behind, hbehind, rfl⟩
            rcases literals_of_wildcards hbehind with ⟨hsubset, hcount⟩
            rw [literals, hc, List.count_cons_self, List.count_cons, List.count_cons]
            constructor
            · exact List.Subset.trans (List.cons_subset_cons d hsubset) (List.subset_cons_self _ _)
            · split <;> omega
      · rw [wildcards_cons hc, Option.map_eq_some_iff] at h
        rcases h with ⟨behind, hbehind, rfl⟩
        rcases literals_of_wildcards hbehind with ⟨hsubset, hcount⟩
        rw [List.count_cons_of_ne hc]
        rcases literals_plain c behind with heq | heq
        · rw [heq]
          exact ⟨List.Subset.trans hsubset (List.subset_cons_self c rest), hcount⟩
        · rw [heq, List.count_cons_of_ne hc]
          exact ⟨List.cons_subset_cons c hsubset, hcount⟩

def IsLower (s : List Char) : Prop :=
  forall c, c ∈ s -> c.toNat < 128 ∧ c.toLower = c

theorem isLower_map {s : List Char} (h : IsAscii s) : IsLower (s.map Char.toLower) := by
  intro c hc
  rcases List.mem_map.mp hc with ⟨d, hd, rfl⟩
  exact ⟨toLower_small (h d hd), toLower_toLower (h d hd)⟩

theorem IsLower.sample {s : List Char} (h : IsLower s) {ws : List Wildcard}
    (hws : literals ws ⊆ s) : IsLower (sample ws) := by
  intro c hc
  rcases mem_sample hc with rfl | hc
  · decide
  · exact h c (hws hc)

theorem IsLower.isAscii {s : List Char} (h : IsLower s) : IsAscii s :=
  fun c hc => (h c hc).left

theorem IsLower.map_eq {s : List Char} (h : IsLower s) : s.map Char.toLower = s := by
  rw [List.map_congr_left fun c hc => (h c hc).right, List.map_id']

theorem count_lower {s : List Char} (h : IsAscii s) :
    (s.map Char.toLower).count '\\' = s.count '\\' := by
  rw [List.count_eq_countP, List.count_eq_countP, List.countP_map]
  apply List.countP_congr
  intro c hc
  simp [toLower_eq_backslash (h c hc)]

theorem literals_wildcardOf {pattern : List Char} (h : IsAscii pattern) :
    literals (pattern.map wildcardOf) ⊆ pattern.map Char.toLower ∧
      (literals (pattern.map wildcardOf)).count '\\' = pattern.count '\\' := by
  induction pattern with
  | nil =>
      exact ⟨List.Subset.refl [], rfl⟩
  | cons c pattern ih =>
      rcases h.cons with ⟨hc, hpattern⟩
      rcases ih hpattern with ⟨hsubset, hcount⟩
      rw [List.map_cons, List.map_cons]
      by_cases hslash : c = '\\'
      · have hexactly : wildcardOf '\\' = .exactly '\\' := by decide
        have hlower : ('\\').toLower = '\\' := by decide
        rw [hslash, hexactly, hlower, literals, List.count_cons_self, List.count_cons_self,
          hcount]
        exact ⟨List.cons_subset_cons _ hsubset, rfl⟩
      · have hlower : c.toLower ≠ '\\' := mt (toLower_eq_backslash hc).mp hslash
        rw [← plainWildcard_toLower hc, List.count_cons_of_ne hslash]
        rcases literals_plain c.toLower (pattern.map wildcardOf) with heq | heq
        · rw [heq]
          exact ⟨List.Subset.trans hsubset (List.subset_cons_self _ _), hcount⟩
        · rw [heq, List.count_cons_of_ne hlower]
          exact ⟨List.cons_subset_cons _ hsubset, hcount⟩

theorem describes_behind {ws : List Wildcard} {front s : List Char} (h : Describes ws s)
    (hfront : front = [] ∨ ws.head? = some .anything) : Describes ws (front ++ s) := by
  rcases hfront with rfl | hhead
  · exact h
  · rcases List.head?_eq_some_iff.mp hhead with ⟨rest, rfl⟩
    rcases describes_anything_iff.mp h with ⟨piece, tail, rfl, htail⟩
    rw [← List.append_assoc]
    exact htail.anything (front ++ piece)

private theorem count_of_like {pattern text : List Char} (hascii : IsAscii pattern)
    (htext : IsAscii text) (h : like pattern text = true) :
    pattern.count '\\' <= text.count '\\' := by
  rw [like_iff, fold_ascii htext] at h
  have hcount := (literals_sublist h).count_le '\\'
  rwa [(literals_wildcardOf hascii).right, count_lower htext] at hcount

private theorem head_wildcards {pattern : List Char} {ws : List Wildcard}
    (h : wildcards? pattern = some ws) (hhead : pattern.head? = some '%') :
    ws.head? = some .anything := by
  rcases List.head?_eq_some_iff.mp hhead with ⟨rest, rfl⟩
  rw [wildcards_cons (by decide), Option.map_eq_some_iff] at h
  rcases h with ⟨behind, _, rfl⟩
  rfl

/-- With a backslash in the pattern there are texts on which a database and the matcher
differ.  They may begin with any text if the pattern begins with a wildcard for anything. -/
theorem backslash_parts {pattern front : List Char} (hascii : IsAscii pattern)
    (hfront : IsAscii front) (hclean : '\\' ∉ front)
    (hreach : front = [] ∨ pattern.head? = some '%') (h : '\\' ∈ pattern) :
    exists rest, IsAscii rest ∧
      ¬ (Matches (pattern.map Char.toLower) ((front ++ rest).map Char.toLower) <->
        like pattern (front ++ rest) = true) := by
  have hlower := isLower_map hascii
  cases hws : wildcards? (pattern.map Char.toLower) with
  | none =>
      -- The last backslash has nothing to escape, and only the matcher finds anything.
      have hrest := hlower.sample (literals_wildcardOf hascii).left
      refine ⟨sample (pattern.map wildcardOf), hrest.isAscii, ?_⟩
      intro hsame
      have hlike : like pattern (front ++ sample (pattern.map wildcardOf)) = true := by
        rw [like_iff, List.map_append, fold_ascii hrest.isAscii, hrest.map_eq]
        apply describes_behind (describes_sample _)
        rcases hreach with rfl | hhead
        · exact Or.inl rfl
        · rw [List.head?_map, hhead]
          exact Or.inr rfl
      rcases hsame.mpr hlike with ⟨ws, hfound, _⟩
      rw [hws] at hfound
      cases hfound
  | some ws =>
      -- The database finds a text with fewer backslashes than the pattern has.
      rcases literals_of_wildcards hws with ⟨hsubset, hcount⟩
      have hrest := hlower.sample hsubset
      refine ⟨sample ws, hrest.isAscii, ?_⟩
      intro hsame
      have hmatches : Matches (pattern.map Char.toLower)
          ((front ++ sample ws).map Char.toLower) := by
        refine ⟨ws, hws, ?_⟩
        rw [List.map_append, hrest.map_eq]
        apply describes_behind (describes_sample ws)
        rcases hreach with rfl | hhead
        · exact Or.inl rfl
        · apply Or.inr
          apply head_wildcards hws
          rw [List.head?_map, hhead]
          rfl
      have htext : IsAscii (front ++ sample ws) :=
        List.forall_mem_append.mpr ⟨hfront, hrest.isAscii⟩
      have hneeds := count_of_like hascii htext (hsame.mp hmatches)
      have hpositive : 0 < pattern.count '\\' := List.count_pos_iff.mpr h
      rw [count_lower hascii] at hcount
      rw [List.count_append, List.count_eq_zero_of_not_mem hclean,
        count_sample (by decide)] at hneeds
      omega

end Sql
end Audience
