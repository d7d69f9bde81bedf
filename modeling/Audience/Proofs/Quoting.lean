import Audience.Json.Reading
import Audience.Proofs.Lexing

/-!
# Quoted texts and names as tokens

A quoted text is one token and so is a quoted name, whatever characters they are made of,
and the token stands for the text or the name that was quoted.
-/

namespace Audience
namespace Statement

/-!
# What a token stands for
-/

def undoubled (quote : Char) : List Char -> List Char
  | c :: d :: rest =>
      if c == quote && d == quote then quote :: undoubled quote rest
      else c :: undoubled quote (d :: rest)
  | s => s

def digitValue? (base : Nat) (c : Char) : Option Nat :=
  (Json.hexDigit? c).filter fun n => n < base

def numbered (base limit : Nat) (s : List Char) : Char × Nat :=
  let digits := (s.take limit).takeWhile fun c => (digitValue? base c).isSome
  (Char.ofNat (digits.foldl (fun n c => n * base + (digitValue? base c).getD 0) 0),
    digits.length)

/-- The character that an escape stands for, and the number of characters that the escape
has after the backslash, the first of which is given. -/
def escape (first : Char) (rest : List Char) : Char × Nat :=
  if (digitValue? 8 first).isSome then numbered 8 3 (first :: rest)
  else
    match first with
    | 'b' => ('\u0008', 1)
    | 'f' => ('\u000C', 1)
    | 'n' => ('\n', 1)
    | 'r' => ('\r', 1)
    | 't' => ('\t', 1)
    | 'x' => ((numbered 16 2 rest).1, 1 + (numbered 16 2 rest).2)
    | 'u' => ((numbered 16 4 rest).1, 1 + (numbered 16 4 rest).2)
    | 'U' => ((numbered 16 8 rest).1, 1 + (numbered 16 8 rest).2)
    | _ => (first, 1)

/-- A text without its escapes, after so many characters that were read already. -/
def unescapedAfter : Nat -> List Char -> List Char
  | _, [] => []
  | read + 1, _ :: rest => unescapedAfter read rest
  | 0, ['\\'] => ['\\']
  | 0, '\\' :: first :: rest =>
      (escape first rest).1 :: unescapedAfter (escape first rest).2 (first :: rest)
  | 0, c :: rest =>
      c :: unescapedAfter (if c == singleQuote then 1 else 0) rest

/-- What a text or a name between quotes stands for. -/
def Token.value? : Token -> Option (List Char)
  | .text body => some (undoubled singleQuote body)
  | .escaped body => some (unescapedAfter 0 body)
  | .name body => some (undoubled doubleQuote body)
  | .dollars body => some body
  | _ => none

def textToken (s : List Char) : Token :=
  if needsEscapes s then .escaped (s.flatMap escapedChar) else .text s

def nameToken (s : List Char) : Token :=
  .name (s.flatMap nameChar)

/-!
# Reading quoted texts
-/

namespace Lexer

theorem run_text {s : List Char} (h : singleQuote ∉ s) (recent : List Char) :
    run (.text recent) s = ([], .text (s.reverse ++ recent)) := by
  induction s generalizing recent with
  | nil =>
      rfl
  | cons c s ih =>
      have hc : (c == singleQuote) = false := by
        simpa using fun heq : c = singleQuote => h (by simp [heq])
      have hs : singleQuote ∉ s := fun hmem => h (List.mem_cons_of_mem c hmem)
      rw [run_cons, step, hc]
      simp [ih hs]

theorem step_escaped {c : Char} (hquote : (c == singleQuote) = false)
    (hslash : (c == '\\') = false) (recent : List Char) :
    step (.escaped recent) c = ([], .escaped (c :: recent)) := by
  rw [step, hquote, hslash]
  rfl

private theorem run_octal (n : Nat) (recent : List Char) :
    run (.escapedBackslash recent) (octal n) =
      ([], .escaped ((octal n).reverse ++ recent)) := by
  have hdigit : forall k, k < 8 ->
      (Char.ofNat (0x30 + k) == singleQuote) = false ∧
        (Char.ofNat (0x30 + k) == '\\') = false := by
    decide
  have hsecond := hdigit (n / 8 % 8) (Nat.mod_lt _ (by decide))
  have hthird := hdigit (n % 8) (Nat.mod_lt _ (by decide))
  rw [octal, run_cons, step, run_cons, step_escaped hsecond.1 hsecond.2, run_cons,
    step_escaped hthird.1 hthird.2]
  rfl

private theorem run_escapedChar (c : Char) (recent : List Char) :
    run (.escaped recent) (escapedChar c) =
      ([], .escaped ((escapedChar c).reverse ++ recent)) := by
  unfold escapedChar
  by_cases hquote : (c == singleQuote) = true
  · rw [if_pos hquote]
    rfl
  rw [if_neg hquote]
  by_cases hslash : (c == '\\') = true
  · rw [if_pos hslash]
    rfl
  rw [if_neg hslash]
  by_cases hcontrol : isControl c = true
  · have hopen : step (.escaped recent) '\\' = ([], .escapedBackslash ('\\' :: recent)) := rfl
    rw [if_pos hcontrol]
    split
    case h_7 n =>
      rw [run_cons, hopen, run_octal]
      simp
    all_goals rfl
  · rw [if_neg hcontrol, run_cons,
      step_escaped (Bool.eq_false_iff.mpr hquote) (Bool.eq_false_iff.mpr hslash)]
    rfl

private theorem run_escapedChars (s recent : List Char) :
    run (.escaped recent) (s.flatMap escapedChar) =
      ([], .escaped ((s.flatMap escapedChar).reverse ++ recent)) := by
  induction s generalizing recent with
  | nil =>
      rfl
  | cons c s ih =>
      rw [List.flatMap_cons, run_append, run_escapedChar, ih]
      simp

theorem run_quotedText (s : List Char) :
    isSettled (run .between (quotedText s)).2 = true ∧
      lex (quotedText s) = [textToken s] := by
  unfold quotedText textToken
  by_cases h : needsEscapes s = true
  · have hrun : run .between ('E' :: singleQuote :: s.flatMap escapedChar ++ [singleQuote]) =
        ([], .escapedQuote (s.flatMap escapedChar).reverse) := by
      have hopen : run .between ['E', singleQuote] = ([], .escaped []) := rfl
      have hsplit : 'E' :: singleQuote :: s.flatMap escapedChar ++ [singleQuote] =
          ['E', singleQuote] ++ (s.flatMap escapedChar ++ [singleQuote]) := rfl
      rw [hsplit, run_append, hopen, run_append, run_escapedChars, List.append_nil]
      rfl
    rw [if_pos h, if_pos h, lex, scan, hrun]
    simp [isSettled, flush]
  · have hquote : singleQuote ∉ s := by
      intro hmem
      exact h (List.any_eq_true.mpr ⟨singleQuote, hmem, rfl⟩)
    have hrun : run .between (singleQuote :: s ++ [singleQuote]) =
        ([], .textQuote s.reverse) := by
      have hopen : run .between [singleQuote] = ([], .text []) := rfl
      have hsplit : singleQuote :: s ++ [singleQuote] =
          [singleQuote] ++ (s ++ [singleQuote]) := rfl
      rw [hsplit, run_append, hopen, run_append, run_text hquote, List.append_nil]
      rfl
    rw [if_neg h, if_neg h, lex, scan, hrun]
    simp [isSettled, flush]

/-!
# Reading quoted names
-/

private theorem run_nameChars (s recent : List Char) :
    run (.name recent) (s.flatMap nameChar) =
      ([], .name ((s.flatMap nameChar).reverse ++ recent)) := by
  induction s generalizing recent with
  | nil =>
      rfl
  | cons c s ih =>
      have hc : run (.name recent) (nameChar c) =
          ([], .name ((nameChar c).reverse ++ recent)) := by
        unfold nameChar
        by_cases hquote : (c == doubleQuote) = true
        · rw [if_pos hquote]
          rfl
        · rw [if_neg hquote]
          simp [run, step, hquote]
      rw [List.flatMap_cons, run_append, hc, ih]
      simp

theorem run_quotedName (s : List Char) :
    run .between (quotedName s) = ([], .nameQuote (s.flatMap nameChar).reverse) := by
  have hopen : run .between [doubleQuote] = ([], .name []) := rfl
  have hsplit : quotedName s = [doubleQuote] ++ (s.flatMap nameChar ++ [doubleQuote]) := rfl
  rw [hsplit, run_append, hopen, run_append, run_nameChars, List.append_nil]
  rfl

theorem lex_quotedName (s : List Char) : lex (quotedName s) = [nameToken s] := by
  rw [lex, scan, run_quotedName, nameToken]
  simp [flush]

end Lexer

/-!
# Values of quoted texts
-/

theorem undoubled_of_notMem {quote : Char} {s : List Char} (h : quote ∉ s) :
    undoubled quote s = s := by
  induction s with
  | nil =>
      rfl
  | cons c s ih =>
      have hs : quote ∉ s := fun hmem => h (List.mem_cons_of_mem c hmem)
      have hc : (c == quote) = false := by
        simpa using fun heq : c = quote => h (by simp [heq])
      cases s with
      | nil =>
          rfl
      | cons d rest =>
          rw [undoubled, hc, ih hs]
          rfl

@[simp] theorem undoubled_nameChars (s : List Char) :
    undoubled doubleQuote (s.flatMap nameChar) = s := by
  induction s with
  | nil =>
      rfl
  | cons c s ih =>
      rw [List.flatMap_cons, nameChar]
      by_cases h : (c == doubleQuote) = true
      · rw [if_pos h, List.cons_append, List.cons_append, List.nil_append, undoubled, ih,
          eq_of_beq h]
        rfl
      · rw [if_neg h, List.cons_append, List.nil_append]
        cases hrest : s.flatMap nameChar with
        | nil =>
            rw [undoubled, ← ih, hrest]
            · rfl
            · simp
        | cons d rest =>
            rw [undoubled, ← hrest, ih]
            simp [h]

theorem digitValue_octal {d : Nat} (h : d < 8) :
    digitValue? 8 (Char.ofNat (0x30 + d)) = some d := by
  revert h d
  decide

private theorem numbered_octal {n : Nat} (h : n < 512) (rest : List Char) :
    numbered 8 3 (octal n ++ rest) = (Char.ofNat n, 3) := by
  have hfirst := digitValue_octal (d := n / 64) (by omega)
  have hsecond := digitValue_octal (Nat.mod_lt (n / 8) (by decide : 8 > 0))
  have hthird := digitValue_octal (Nat.mod_lt n (by decide : 8 > 0))
  have hvalue : (n / 64 * 8 + n / 8 % 8) * 8 + n % 8 = n := by
    omega
  simp [numbered, octal, hfirst, hsecond, hthird, hvalue]

private theorem unescapedAfter_octal {n : Nat} (h : n < 512) (rest : List Char) :
    unescapedAfter 0 ('\\' :: octal n ++ rest) = Char.ofNat n :: unescapedAfter 0 rest := by
  have hfirst := digitValue_octal (d := n / 64) (by omega)
  have hescape : escape (Char.ofNat (0x30 + n / 64))
      (Char.ofNat (0x30 + n / 8 % 8) :: Char.ofNat (0x30 + n % 8) :: rest) =
        (Char.ofNat n, 3) := by
    unfold escape
    rw [hfirst]
    exact numbered_octal h rest
  have hstep : forall first after, unescapedAfter 0 ('\\' :: first :: after) =
      (escape first after).1 :: unescapedAfter (escape first after).2 (first :: after) :=
    fun first after => rfl
  rw [octal, List.cons_append, List.cons_append, hstep]
  simp only [List.cons_append, List.nil_append, hescape]
  rfl

/-- A character with escapes is read back, except the one with number zero: with digits
behind it, it is read as another one. -/
private theorem unescapedAfter_escapedChar {c : Char} (hc : c ≠ '\x00') (rest : List Char) :
    unescapedAfter 0 (escapedChar c ++ rest) = c :: unescapedAfter 0 rest := by
  have hnumber : c.toNat ≠ 0 := by
    intro hzero
    exact hc (by rw [← Char.ofNat_toNat c, hzero])
  unfold escapedChar
  by_cases hquote : (c == singleQuote) = true
  · rw [if_pos hquote, eq_of_beq hquote]
    rfl
  rw [if_neg hquote]
  by_cases hslash : (c == '\\') = true
  · rw [if_pos hslash, eq_of_beq hslash]
    rfl
  rw [if_neg hslash]
  by_cases hcontrol : isControl c = true
  · rw [if_pos hcontrol]
    have hchar := Char.ofNat_toNat c
    split
    case h_1 h => exact absurd h hnumber
    case h_7 =>
      have hsmall : c.toNat < 512 := by
        simp only [isControl, Bool.or_eq_true, decide_eq_true_eq, beq_iff_eq] at hcontrol
        omega
      rw [unescapedAfter_octal hsmall, hchar]
    all_goals
      rename_i h
      rw [← hchar, h]
      rfl
  · have hne : c ≠ '\\' := by simpa using hslash
    rw [if_neg hcontrol]
    simp [unescapedAfter, hne, hquote]

private theorem unescapedAfter_escapedChars {s : List Char} (h : '\x00' ∉ s) :
    unescapedAfter 0 (s.flatMap escapedChar) = s := by
  induction s with
  | nil =>
      rfl
  | cons c s ih =>
      have hc : c ≠ '\x00' := fun heq => h (by simp [heq])
      have hs : '\x00' ∉ s := fun hmem => h (List.mem_cons_of_mem c hmem)
      rw [List.flatMap_cons, unescapedAfter_escapedChar hc, ih hs]

theorem value_textToken {s : List Char} (h : '\x00' ∉ s) :
    (textToken s).value? = some s := by
  unfold textToken
  by_cases hescapes : needsEscapes s = true
  · rw [if_pos hescapes, Token.value?, unescapedAfter_escapedChars h]
  · have hquote : singleQuote ∉ s := by
      intro hmem
      exact hescapes (List.any_eq_true.mpr ⟨singleQuote, hmem, rfl⟩)
    rw [if_neg hescapes, Token.value?, undoubled_of_notMem hquote]

@[simp] theorem value_nameToken (s : List Char) : (nameToken s).value? = some s := by
  rw [nameToken, Token.value?, undoubled_nameChars]

end Statement
end Audience
