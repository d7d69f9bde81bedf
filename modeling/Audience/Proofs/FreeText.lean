import Mathlib.Data.List.Infix
import Audience.Compiler
import Audience.Proofs.Evaluation
import Audience.Proofs.LowerCase
import Audience.Proofs.SearchPatterns

/-!
# Searches in free text

## Words in turn

A free text is searched for word by word: each word has to be found in what is left behind
the word in front of it.  An email is searched for as one word.
-/

namespace Audience
namespace Text

/-- Each word finds a part of the text, one part behind the other. -/
inductive InTurn (found : List Char -> List Char -> Prop) :
    List (List Char) -> List Char -> Prop where
  | nil (s : List Char) : InTurn found [] s
  | cons {word piece rest : List Char} {words : List (List Char)} (before : List Char)
      (hpiece : found word piece) (hrest : InTurn found words rest) :
      InTurn found (word :: words) (before ++ piece ++ rest)

/-- The same text but for the case of its letters. -/
def SameButCase (word piece : List Char) : Prop :=
  piece.map foldChar = word.map foldChar

instance (word piece : List Char) : Decidable (SameButCase word piece) :=
  inferInstanceAs (Decidable (piece.map foldChar = word.map foldChar))

/-- A text that the word describes when it is read as a pattern. -/
def AsPattern (word piece : List Char) : Prop :=
  Describes (word.map wildcardOf) (piece.map foldChar)

/-- No character of the word is a wildcard. -/
def IsLiteral (word : List Char) : Prop :=
  '%' ∉ word ∧ '_' ∉ word

variable {found other : List Char -> List Char -> Prop} {word s : List Char}
  {words : List (List Char)}

theorem inTurn_cons_iff :
    InTurn found (word :: words) s <->
      exists before piece rest, s = before ++ piece ++ rest ∧ found word piece ∧
        InTurn found words rest := by
  constructor
  · intro h
    cases h with
    | cons before hpiece hrest =>
        exact ⟨before, _, _, rfl, hpiece, hrest⟩
  · intro h
    rcases h with ⟨before, piece, rest, rfl, hpiece, hrest⟩
    exact InTurn.cons before hpiece hrest

theorem InTurn.imp (h : InTurn found words s)
    (himp : forall word, word ∈ words -> forall piece, found word piece -> other word piece) :
    InTurn other words s := by
  induction h with
  | nil s =>
      exact InTurn.nil s
  | cons before hpiece hrest ih =>
      rw [List.forall_mem_cons] at himp
      exact InTurn.cons before (himp.left _ hpiece) (ih himp.right)

theorem inTurn_single_iff :
    InTurn SameButCase [word] s <-> word.map foldChar <:+: s.map foldChar := by
  rw [inTurn_cons_iff]
  constructor
  · intro h
    rcases h with ⟨before, piece, rest, rfl, hpiece, _⟩
    refine ⟨before.map foldChar, rest.map foldChar, ?_⟩
    rw [List.map_append, List.map_append, hpiece]
  · intro h
    rcases h with ⟨front, back, hs⟩
    rcases List.map_eq_append_iff.mp hs.symm with ⟨start, rest, rfl, hstart, _⟩
    rcases List.map_eq_append_iff.mp hstart with ⟨before, piece, rfl, _, hpiece⟩
    exact ⟨before, piece, rest, rfl, hpiece, InTurn.nil rest⟩

theorem InTurn.mem {c : Char} (h : InTurn SameButCase words s) (hword : word ∈ words)
    (hc : c ∈ word) :
    foldChar c ∈ s.map foldChar := by
  induction h with
  | nil s =>
      cases hword
  | cons before hpiece hrest ih =>
      rw [List.map_append, List.map_append, hpiece]
      rcases List.mem_cons.mp hword with rfl | hword
      · exact List.mem_append_left _ (List.mem_append_right _ (List.mem_map_of_mem hc))
      · exact List.mem_append_right _ (ih hword)

/-!
## Patterns of words

The pattern of a list of words has a wildcard for anything on either side of each word.
-/

theorem describes_append {front back : List Wildcard} {t : List Char}
    (h : Describes front s) (hback : Describes back t) : Describes (front ++ back) (s ++ t) := by
  induction h with
  | nil =>
      exact hback
  | anything piece _ ih =>
      rw [List.append_assoc]
      exact ih.anything piece
  | anyChar c _ ih =>
      exact ih.anyChar c
  | exactly c _ ih =>
      exact ih.exactly c

theorem describes_append_iff {front back : List Wildcard} :
    Describes (front ++ back) s <->
      exists piece rest, s = piece ++ rest ∧ Describes front piece ∧ Describes back rest := by
  constructor
  · intro h
    induction front generalizing s with
    | nil =>
        exact ⟨[], s, rfl, Describes.nil, h⟩
    | cons w front ih =>
        cases h with
        | anything before h =>
            rcases ih h with ⟨piece, rest, rfl, hpiece, hrest⟩
            exact ⟨before ++ piece, rest, (List.append_assoc _ _ _).symm,
              hpiece.anything before, hrest⟩
        | anyChar c h =>
            rcases ih h with ⟨piece, rest, rfl, hpiece, hrest⟩
            exact ⟨c :: piece, rest, rfl, hpiece.anyChar c, hrest⟩
        | exactly c h =>
            rcases ih h with ⟨piece, rest, rfl, hpiece, hrest⟩
            exact ⟨c :: piece, rest, rfl, hpiece.exactly c, hrest⟩
  · intro h
    rcases h with ⟨piece, rest, rfl, hpiece, hrest⟩
    exact describes_append hpiece hrest

def wordsPattern (words : List (List Char)) : List Char :=
  '%' :: List.intercalate ['%'] words ++ ['%']

theorem wordsPattern_cons (word next : List Char) (words : List (List Char)) :
    wordsPattern (word :: next :: words) = '%' :: word ++ wordsPattern (next :: words) := by
  rw [wordsPattern, wordsPattern, List.intercalate_cons_cons]
  simp

/-- Up to the wildcard behind it, the pattern of a word describes any text in front of a text
that the word itself describes. -/
theorem describes_word_iff {ws : List Wildcard} :
    Describes (wildcardOf '%' :: word.map wildcardOf ++ ws) (s.map foldChar) <->
      exists before piece rest, s = before ++ piece ++ rest ∧ AsPattern word piece ∧
        Describes ws (rest.map foldChar) := by
  rw [List.cons_append, describes_percent_iff]
  constructor
  · intro h
    rcases h with ⟨before, behind, rfl, h⟩
    rcases describes_append_iff.mp h with ⟨front, back, hbehind, hfront, hback⟩
    rcases List.map_eq_append_iff.mp hbehind with ⟨piece, rest, rfl, rfl, rfl⟩
    exact ⟨before, piece, rest, (List.append_assoc _ _ _).symm, hfront, hback⟩
  · intro h
    rcases h with ⟨before, piece, rest, rfl, hpiece, hrest⟩
    refine ⟨before, piece ++ rest, List.append_assoc _ _ _, ?_⟩
    rw [List.map_append]
    exact describes_append hpiece hrest

private theorem describes_percent (s : List Char) : Describes [wildcardOf '%'] (s.map foldChar) :=
  describes_percent_iff.mpr ⟨s, [], (List.append_nil s).symm, Describes.nil⟩

theorem like_wordsPattern_iff :
    like (wordsPattern words) s = true <-> InTurn AsPattern words s := by
  rw [like_iff]
  induction words generalizing s with
  | nil =>
      refine iff_of_true ?_ (InTurn.nil s)
      exact describes_percent_iff.mpr ⟨[], s, rfl, describes_percent s⟩
  | cons word words ih =>
      rw [inTurn_cons_iff]
      cases words with
      | nil =>
          have hpattern : (wordsPattern [word]).map wildcardOf =
              wildcardOf '%' :: word.map wildcardOf ++ [wildcardOf '%'] := by
            simp [wordsPattern]
          rw [hpattern, describes_word_iff]
          constructor
          · intro h
            rcases h with ⟨before, piece, rest, hs, hpiece, _⟩
            exact ⟨before, piece, rest, hs, hpiece, InTurn.nil rest⟩
          · intro h
            rcases h with ⟨before, piece, rest, hs, hpiece, _⟩
            exact ⟨before, piece, rest, hs, hpiece, describes_percent rest⟩
      | cons next words =>
          rw [wordsPattern_cons, List.map_append, List.map_cons, describes_word_iff]
          simp only [ih]

/-!
## Words without wildcards
-/

theorem wildcardOf_literal {c : Char} (hpercent : c ≠ '%') (hunderscore : c ≠ '_') :
    wildcardOf c = .exactly (foldChar c) := by
  simp [wildcardOf, hpercent, hunderscore]

theorem asPattern_of_sameButCase {piece : List Char} (h : SameButCase word piece) :
    AsPattern word piece := by
  rw [AsPattern, h]
  clear h
  induction word with
  | nil =>
      exact Describes.nil
  | cons c word ih =>
      rw [List.map_cons, List.map_cons, wildcardOf]
      split
      · exact ih.anything [foldChar c]
      · split
        · exact ih.anyChar (foldChar c)
        · exact ih.exactly (foldChar c)

theorem sameButCase_of_asPattern {piece : List Char} (hliteral : IsLiteral word)
    (h : AsPattern word piece) : SameButCase word piece := by
  unfold AsPattern at h
  unfold SameButCase
  generalize piece.map foldChar = t at h ⊢
  induction word generalizing t with
  | nil =>
      exact describes_nil_iff.mp h
  | cons c word ih =>
      rcases hliteral with ⟨hpercent, hunderscore⟩
      rw [List.mem_cons, not_or] at hpercent hunderscore
      rw [List.map_cons, wildcardOf_literal (Ne.symm hpercent.left) (Ne.symm hunderscore.left)] at h
      rcases describes_exactly_iff.mp h with ⟨rest, rfl, hrest⟩
      rw [ih ⟨hpercent.right, hunderscore.right⟩ rest hrest]
      rfl

/-!
## Words with wildcards

A wildcard finds a text from which it is left out, or where another character stands in its
place.
-/

/-- The text without its wildcards for anything and with a letter for any one character. -/
def withoutWildcards : List Char -> List Char
  | [] => []
  | c :: rest =>
      if c = '%' then withoutWildcards rest
      else (if c = '_' then 'x' else c) :: withoutWildcards rest

theorem asPattern_withoutWildcards (word : List Char) :
    AsPattern word (withoutWildcards word) := by
  unfold AsPattern
  induction word with
  | nil =>
      exact Describes.nil
  | cons c word ih =>
      rw [List.map_cons, withoutWildcards]
      by_cases hpercent : c = '%'
      · rw [if_pos hpercent, hpercent]
        exact ih.anything []
      · rw [if_neg hpercent, List.map_cons]
        by_cases hunderscore : c = '_'
        · rw [if_pos hunderscore, hunderscore]
          exact ih.anyChar (foldChar 'x')
        · rw [if_neg hunderscore, wildcardOf_literal hpercent hunderscore]
          exact ih.exactly (foldChar c)

theorem isLiteral_withoutWildcards (word : List Char) : IsLiteral (withoutWildcards word) := by
  induction word with
  | nil =>
      exact ⟨List.not_mem_nil, List.not_mem_nil⟩
  | cons c word ih =>
      rw [withoutWildcards]
      split
      · exact ih
      · rename_i hpercent
        rcases ih with ⟨hnoPercent, hnoUnderscore⟩
        split
        · exact ⟨by simp [hnoPercent], by simp [hnoUnderscore]⟩
        · rename_i hunderscore
          exact ⟨by simp [hnoPercent, Ne.symm hpercent],
            by simp [hnoUnderscore, Ne.symm hunderscore]⟩

theorem isAscii_withoutWildcards {word : List Char} (h : IsAscii word) :
    IsAscii (withoutWildcards word) := by
  induction word with
  | nil =>
      exact h
  | cons c word ih =>
      rcases h.cons with ⟨hc, hword⟩
      rw [withoutWildcards]
      split
      · exact ih hword
      · unfold IsAscii
        rw [List.forall_mem_cons]
        refine ⟨?_, ih hword⟩
        split
        · decide
        · exact hc

def LeadsToLetters (run : CaseRun) : Prop :=
  0x60 < run.first + run.shift ∧
    (run.last + run.shift < 0xD800 ∨
      (0xDFFF < run.first + run.shift ∧ run.last + run.shift < 0x110000))

instance (run : CaseRun) : Decidable (LeadsToLetters run) := by
  unfold LeadsToLetters
  infer_instance

private theorem foldRuns_leadToLetters : forall run, run ∈ foldRuns -> LeadsToLetters run := by
  decide +kernel

theorem eq_of_foldChar_eq {c mark : Char} (hmark : mark = '%' ∨ mark = '_')
    (h : foldChar c = mark) : c = mark := by
  have hsmall : mark.toNat < 0x60 := by
    rcases hmark with rfl | rfl <;> decide
  by_cases hc : c.toNat < 128
  · revert h
    rcases hmark with rfl | rfl
    · exact of_small (p := fun c => foldChar c = '%' -> c = '%') (by decide) hc
    · exact of_small (p := fun c => foldChar c = '_' -> c = '_') (by decide) hc
  · rw [foldChar, if_neg hc, mappedBy] at h
    cases hfind : foldRuns.find? fun run => run.covers c.toNat with
    | none =>
        rw [hfind] at h
        exact h
    | some run =>
        rw [hfind] at h
        have hletters := foldRuns_leadToLetters run (List.mem_of_find?_eq_some hfind)
        have hcovers := List.find?_some hfind
        simp only [CaseRun.covers, Bool.and_eq_true, decide_eq_true_eq] at hcovers
        have hvalid : ((c.toNat : Int) + run.shift).toNat.isValidChar := by
          unfold Nat.isValidChar
          unfold LeadsToLetters at hletters
          omega
        have hnat := Statement.toNat_ofNat_of_valid hvalid
        dsimp only at h
        rw [h] at hnat
        unfold LeadsToLetters at hletters
        omega

theorem not_inTurn_withoutWildcards {words : List (List Char)} {word tail : List Char}
    (hword : word ∈ words) (hwild : ¬ IsLiteral word) (htail : IsLiteral tail) :
    ¬ InTurn SameButCase words (words.flatMap withoutWildcards ++ tail) := by
  intro h
  have hmark : exists mark, (mark = '%' ∨ mark = '_') ∧ mark ∈ word := by
    rw [IsLiteral, not_and_or, not_not, not_not] at hwild
    rcases hwild with hmem | hmem
    · exact ⟨'%', Or.inl rfl, hmem⟩
    · exact ⟨'_', Or.inr rfl, hmem⟩
  rcases hmark with ⟨mark, hmark, hmem⟩
  have hfold : foldChar mark = mark := by
    rcases hmark with rfl | rfl <;> decide
  have hfound := h.mem hword hmem
  rw [hfold, List.mem_map] at hfound
  rcases hfound with ⟨c, hc, hfolded⟩
  rw [eq_of_foldChar_eq hmark hfolded] at hc
  have habsent : forall s, IsLiteral s -> mark ∉ s := by
    intro s hs
    rcases hmark with rfl | rfl
    · exact hs.left
    · exact hs.right
  rcases List.mem_append.mp hc with hc | hc
  · rcases List.mem_flatMap.mp hc with ⟨other, _, hc⟩
    exact habsent _ (isLiteral_withoutWildcards other) hc
  · exact habsent tail htail hc

theorem inTurn_withoutWildcards (words : List (List Char)) (tail : List Char) :
    InTurn AsPattern words (words.flatMap withoutWildcards ++ tail) := by
  induction words with
  | nil =>
      exact InTurn.nil tail
  | cons word words ih =>
      rw [List.flatMap_cons, List.append_assoc]
      exact InTurn.cons [] (asPattern_withoutWildcards word) ih

end Text

/-!
## Searches of a request
-/

namespace Compiler

open Text

/-- What a search for words in a text of users finds. -/
structure Finds (target : SearchText) (words : List (List Char)) (p : Predicate) : Prop where
  /-- It finds the users whose text the words describe, read as patterns. -/
  described :
    forall user, exists answer, p.holds user = .ok answer ∧
      (answer = true <-> InTurn AsPattern words (user.searchText target).toList)
  /-- Every user whose text holds the words is found. -/
  held :
    forall user, InTurn SameButCase words (user.searchText target).toList ->
      p.holds user = .ok true
  /-- Without wildcards among the words nobody else is found. -/
  literal :
    (forall word, word ∈ words -> IsLiteral word) ->
      forall user, p.holds user = .ok true ->
        InTurn SameButCase words (user.searchText target).toList
  /-- With a wildcard there is somebody else who is found. -/
  wild :
    (exists word, word ∈ words ∧ ¬ IsLiteral word) ->
      exists user : User, p.holds user = .ok true ∧
        ¬ InTurn SameButCase words (user.searchText target).toList ∧
        ((forall word, word ∈ words -> IsAscii word) ->
          IsAscii (user.searchText target).toList)

private theorem exists_searchText (target : SearchText) (s : List Char) :
    exists (user : User) (tail : List Char), (user.searchText target).toList = s ++ tail ∧
      IsLiteral tail ∧ IsAscii tail := by
  cases target with
  | fullName =>
      refine ⟨{ User.unknown 0 "" with firstName := String.ofList s }, [' '], ?_, ?_, ?_⟩
      · simp [User.searchText, User.fullName, User.unknown]
      · exact ⟨by decide, by decide⟩
      · decide
  | email =>
      refine ⟨{ User.unknown 0 "" with email := String.ofList s }, [], ?_, ?_, ?_⟩
      · simp [User.searchText]
      · exact ⟨List.not_mem_nil, List.not_mem_nil⟩
      · decide

private theorem finds_words (target : SearchText) (words : List (List Char)) :
    Finds target words (.like target (String.ofList (wordsPattern words))) := by
  have hholds : forall user : User,
      (Predicate.like target (String.ofList (wordsPattern words))).holds user =
        .ok (like (wordsPattern words) (user.searchText target).toList) := by
    intro user
    rw [Predicate.holds, String.toList_ofList]
  have hfound : forall user : User,
      (Predicate.like target (String.ofList (wordsPattern words))).holds user = .ok true <->
        InTurn AsPattern words (user.searchText target).toList := by
    intro user
    rw [hholds, Except.ok.injEq, like_wordsPattern_iff]
  constructor
  case described =>
    intro user
    exact ⟨_, hholds user, like_wordsPattern_iff⟩
  case held =>
    intro user h
    exact (hfound user).mpr (h.imp fun _ _ _ => asPattern_of_sameButCase)
  case literal =>
    intro hliteral user h
    exact ((hfound user).mp h).imp fun word hword _ =>
      sameButCase_of_asPattern (hliteral word hword)
  case wild =>
    intro h
    rcases h with ⟨word, hword, hwild⟩
    rcases exists_searchText target (words.flatMap withoutWildcards) with
      ⟨user, tail, htext, htail, hascii⟩
    refine ⟨user, ?_, ?_, ?_⟩
    · rw [hfound, htext]
      exact inTurn_withoutWildcards words tail
    · rw [htext]
      exact not_inTurn_withoutWildcards hword hwild htail
    · intro hwords
      rw [htext, IsAscii, List.forall_mem_append, List.forall_mem_flatMap]
      exact ⟨fun word hword => isAscii_withoutWildcards (hwords word hword), hascii⟩

theorem emailPattern_eq (email : String) :
    emailPattern email = String.ofList (wordsPattern [trim email.toList]) := by
  rw [← String.toList_inj, emailPattern, trimmed, wordsPattern, List.intercalate_singleton]
  simp

/--
The email that is asked for is searched for as one word, and the name word by word.  What is
found is what holds the words, unless there is a wildcard among them.
-/
theorem free_text_finds (form : Form) :
    (forall email, form.filled? "user_email" = some email ->
      exists search, emailSearch? form = some search ∧
        Finds .email [trim email.toList] search.predicate) ∧
    forall name, form.filled? "user_name" = some name ->
      exists search, nameSearch? form = some search ∧
        Finds .fullName (words name.toList) search.predicate := by
  constructor
  · intro email hemail
    refine ⟨⟨.like .email (emailPattern email), "\n and email is like \"" ++ email ++ "\""⟩,
      ?_, ?_⟩
    · rw [emailSearch?, hemail]
      rfl
    · dsimp only
      rw [emailPattern_eq]
      exact finds_words .email [trim email.toList]
  · intro name hname
    refine ⟨⟨.like .fullName (namePattern name), "\n and name is like \"" ++ name ++ "\""⟩,
      ?_, ?_⟩
    · rw [nameSearch?, hname]
      rfl
    · exact finds_words .fullName (words name.toList)

def janeDoe : Form :=
  ⟨[("user_name", " jane  doe "), ("user_email", "DOE@ ")]⟩

theorem free_text_finds_janeDoe :
    janeDoe.filled? "user_name" = some " jane  doe " ∧
      janeDoe.filled? "user_email" = some "DOE@ " ∧
      (exists search, nameSearch? janeDoe = some search ∧
        search.predicate.holds
          { User.unknown 1 "" with firstName := "Jane Q.", lastName := "Doe" } = .ok true) ∧
      exists search, emailSearch? janeDoe = some search ∧
        search.predicate.holds
          { User.unknown 1 "" with email := "jane.doe@example.org" } = .ok true := by
  have hname : janeDoe.filled? "user_name" = some " jane  doe " := by decide
  have hemail : janeDoe.filled? "user_email" = some "DOE@ " := by decide
  refine ⟨hname, hemail, ?_, ?_⟩
  · rcases (free_text_finds janeDoe).right _ hname with ⟨search, hsearch, hfinds⟩
    refine ⟨search, hsearch, hfinds.held _ ?_⟩
    have hwords : words " jane  doe ".toList = ["jane".toList, "doe".toList] := by decide
    have hjane : SameButCase "jane".toList "Jane".toList := by decide
    have hdoe : SameButCase "doe".toList "Doe".toList := by decide
    rw [hwords]
    exact .cons [] hjane (.cons " Q. ".toList hdoe (.nil []))
  · rcases (free_text_finds janeDoe).left _ hemail with ⟨search, hsearch, hfinds⟩
    refine ⟨search, hsearch, hfinds.held _ ?_⟩
    rw [inTurn_single_iff]
    decide

def underscored : Form :=
  ⟨[("user_name", "a_b"), ("user_email", "a_b")]⟩

def neighbour : User :=
  { User.unknown 1 "subscribed" with firstName := "axb", email := "axb@example.org" }

/-- The underscore finds a user whose name and email do not hold it. -/
theorem underscore_finds_neighbour :
    (exists search, emailSearch? underscored = some search ∧
      search.predicate.holds neighbour = .ok true) ∧
    ¬ InTurn SameButCase [trim "a_b".toList] neighbour.email.toList ∧
    (exists search, nameSearch? underscored = some search ∧
      search.predicate.holds neighbour = .ok true) ∧
    ¬ InTurn SameButCase (words "a_b".toList) neighbour.fullName.toList ∧
    IsAscii neighbour.email.toList ∧ IsAscii neighbour.fullName.toList := by
  have hword : words "a_b".toList = ["a_b".toList] := by decide
  rw [hword, inTurn_single_iff, inTurn_single_iff]
  refine ⟨⟨_, rfl, ?_⟩, ?_, ⟨_, rfl, ?_⟩, ?_, ?_, ?_⟩
  · decide
  · decide
  · decide
  · decide
  · decide
  · decide

end Compiler
end Audience
