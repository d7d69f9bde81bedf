import Audience.Statement.Piece

/-!
# How a database splits a statement

The tokens of a statement by the lexical rules of Postgres, read one character at a time
from left to right.  Texts stand in single quotes, and a doubled quote in them is a quote;
directly after the letter E, a backslash takes the next character with it.  Names stand in
double quotes.  Comments run to the end of the line or, nested, between their marks.  A
text may also stand between two equal tags of dollar signs.  A text with another letter in
front, or one that goes on in a later line, is left in its parts; no statement writes one.

The rules need to remember what kind of token was begun and what it holds so far, nothing
else.  Reading a text is therefore reading its first part and then, from the state reached
there, the rest.
-/

namespace Audience
namespace Statement

/-- A token of a statement.  Texts and names hold what is written between their quotes. -/
inductive Token where
  /-- A keyword or a name without quotes. -/
  | word (letters : List Char)
  | number (figures : List Char)
  /-- An operator or a mark of punctuation. -/
  | sign (marks : List Char)
  /-- A text between single quotes. -/
  | text (body : List Char)
  /-- A text between single quotes with an `E` in front. -/
  | escaped (body : List Char)
  /-- A name between double quotes. -/
  | name (body : List Char)
  /-- A text between tags of dollar signs. -/
  | dollars (body : List Char)
  /-- What has no end before the statement ends. -/
  | unfinished
  deriving DecidableEq, Repr

def opening : Token := .sign ['(']

def closing : Token := .sign [')']

namespace Lexer

/-!
# Kinds of characters
-/

def isSpace (c : Char) : Bool :=
  c == ' ' || (0x09 <= c.toNat && c.toNat <= 0x0D)

def isPunctuation (c : Char) : Bool :=
  [',', '(', ')', '[', ']', '.', ';', ':'].contains c

def isOperator (c : Char) : Bool :=
  ['+', '-', '*', '/', '<', '>', '=', '~', '!', '@', '#', '%', '^', '&', '|', '\u0060',
    '?'].contains c

def isWord (c : Char) : Bool :=
  c.isAlphanum || c == '_' || c == '$' || 0x80 <= c.toNat

def isNumber (c : Char) : Bool :=
  c.isAlphanum || c == '_' || c == '.'

/-!
# States

What was read of a token is kept with the last character first.
-/

inductive Mode where
  | between
  | word (recent : List Char)
  | number (recent : List Char)
  | operator (recent : List Char)
  | text (recent : List Char)
  /-- After a quote in a text, which is its end or the first of two. -/
  | textQuote (recent : List Char)
  | escaped (recent : List Char)
  | escapedBackslash (recent : List Char)
  | escapedQuote (recent : List Char)
  | name (recent : List Char)
  | nameQuote (recent : List Char)
  | lineComment
  /-- In this many comments around the innermost one, after this character. -/
  | comment (outer : Nat) (last : Char)
  /-- After a dollar sign and these characters of a tag. -/
  | tag (recent : List Char)
  | dollars (tag recent : List Char)
  deriving DecidableEq, Repr

def operators (recent : List Char) : List Token :=
  if recent.isEmpty then [] else [.sign recent.reverse]

/-- The tokens that end when the statement ends. -/
def flush : Mode -> List Token
  | .between => []
  | .word recent => [.word recent.reverse]
  | .number recent => [.number recent.reverse]
  | .operator recent => operators recent
  | .textQuote recent => [.text recent.reverse]
  | .escapedQuote recent => [.escaped recent.reverse]
  | .nameQuote recent => [.name recent.reverse]
  | .lineComment => []
  | .tag recent => [.sign ('$' :: recent.reverse)]
  | .text _ | .escaped _ | .escapedBackslash _ | .name _ | .comment _ _ | .dollars _ _ =>
      [.unfinished]

def start (c : Char) : List Token × Mode :=
  if isSpace c then ([], .between)
  else if c == singleQuote then ([], .text [])
  else if c == doubleQuote then ([], .name [])
  else if c == '$' then ([], .tag [])
  else if isPunctuation c then ([.sign [c]], .between)
  else if isOperator c then ([], .operator [c])
  else if c.isDigit then ([], .number [c])
  else ([], .word [c])

def finish (mode : Mode) (c : Char) : List Token × Mode :=
  (flush mode ++ (start c).1, (start c).2)

/-- What a character ends and where it leads. -/
def step (mode : Mode) (c : Char) : List Token × Mode :=
  match mode with
  | .between => start c
  | .word recent =>
      if isWord c then ([], .word (c :: recent))
      else if c == singleQuote && (recent == ['E'] || recent == ['e']) then ([], .escaped [])
      else finish mode c
  | .number recent =>
      if isNumber c then ([], .number (c :: recent)) else finish mode c
  | .operator recent =>
      if c == '-' && recent.head? == some '-' then (operators recent.tail, .lineComment)
      else if c == '*' && recent.head? == some '/' then (operators recent.tail, .comment 0 ' ')
      else if isOperator c then ([], .operator (c :: recent))
      else finish mode c
  | .text recent =>
      if c == singleQuote then ([], .textQuote recent) else ([], .text (c :: recent))
  | .textQuote recent =>
      if c == singleQuote then ([], .text (c :: c :: recent)) else finish mode c
  | .escaped recent =>
      if c == singleQuote then ([], .escapedQuote recent)
      else if c == '\\' then ([], .escapedBackslash (c :: recent))
      else ([], .escaped (c :: recent))
  | .escapedBackslash recent => ([], .escaped (c :: recent))
  | .escapedQuote recent =>
      if c == singleQuote then ([], .escaped (c :: c :: recent)) else finish mode c
  | .name recent =>
      if c == doubleQuote then ([], .nameQuote recent) else ([], .name (c :: recent))
  | .nameQuote recent =>
      if c == doubleQuote then ([], .name (c :: c :: recent)) else finish mode c
  | .lineComment =>
      if c == '\n' || c == '\r' then ([], .between) else ([], .lineComment)
  | .comment outer last =>
      if last == '/' && c == '*' then ([], .comment (outer + 1) ' ')
      else if last == '*' && c == '/' then
        match outer with
        | 0 => ([], .between)
        | outer + 1 => ([], .comment outer ' ')
      else ([], .comment outer c)
  | .tag recent =>
      if c == '$' then ([], .dollars recent.reverse [])
      else if c.isDigit && recent.isEmpty then ([], .number [c, '$'])
      else if isWord c then ([], .tag (c :: recent))
      else finish mode c
  | .dollars tag recent =>
      if c == '$' && recent.take (tag.length + 1) == tag.reverse ++ ['$'] then
        ([.dollars (recent.drop (tag.length + 1)).reverse], .between)
      else ([], .dollars tag (c :: recent))

/-!
# Whole texts
-/

def run (mode : Mode) : List Char -> List Token × Mode
  | [] => ([], mode)
  | c :: rest =>
      let (ended, next) := step mode c
      let (later, last) := run next rest
      (ended ++ later, last)

def scan (mode : Mode) (s : List Char) : List Token :=
  (run mode s).1 ++ flush (run mode s).2

def lex (s : List Char) : List Token :=
  scan .between s

theorem run_cons (mode : Mode) (c : Char) (s : List Char) :
    run mode (c :: s) =
      ((step mode c).1 ++ (run (step mode c).2 s).1, (run (step mode c).2 s).2) := rfl

theorem run_append (mode : Mode) (s t : List Char) :
    run mode (s ++ t) =
      ((run mode s).1 ++ (run (run mode s).2 t).1, (run (run mode s).2 t).2) := by
  induction s generalizing mode with
  | nil =>
      rfl
  | cons c s ih =>
      rw [List.cons_append, run_cons, ih, run_cons, List.append_assoc]

theorem scan_append (mode : Mode) (s t : List Char) :
    scan mode (s ++ t) = (run mode s).1 ++ scan (run mode s).2 t := by
  rw [scan, scan, run_append, List.append_assoc]

theorem lex_append_of_between {s : List Char} (h : (run .between s).2 = .between)
    (t : List Char) :
    lex (s ++ t) = lex s ++ lex t := by
  have hself : lex s = (run .between s).1 := by
    rw [lex, scan, h, flush, List.append_nil]
  rw [hself, lex, scan_append, h, lex]

/-!
# Where tokens end

Every token that the statements hold has ended when a space, a comma or a closing
parenthesis follows.
-/

/-- A space, a comma or a closing parenthesis. -/
def isBreak (c : Char) : Bool :=
  c == ' ' || c == ',' || c == ')'

def Breaks (s : List Char) : Prop :=
  forall c, s.head? = some c -> isBreak c = true

/-- In these states a space, a comma or a closing parenthesis is not part of a token. -/
def isSettled : Mode -> Bool
  | .between | .word _ | .number _ | .operator _ => true
  | .textQuote _ | .escapedQuote _ | .nameQuote _ => true
  | _ => false

private theorem eq_of_isBreak {c : Char} (h : isBreak c = true) : c = ' ' ∨ c = ',' ∨ c = ')' := by
  simpa [isBreak, or_assoc] using h

private theorem step_of_isBreak {mode : Mode} {c : Char} (hmode : isSettled mode = true)
    (hc : isBreak c = true) :
    step mode c = finish mode c := by
  cases mode with
  | word recent =>
      rcases eq_of_isBreak hc with rfl | rfl | rfl <;> rfl
  | number recent =>
      rcases eq_of_isBreak hc with rfl | rfl | rfl <;> rfl
  | between =>
      rfl
  | operator recent =>
      rcases eq_of_isBreak hc with rfl | rfl | rfl <;> rfl
  | textQuote recent =>
      rcases eq_of_isBreak hc with rfl | rfl | rfl <;> rfl
  | escapedQuote recent =>
      rcases eq_of_isBreak hc with rfl | rfl | rfl <;> rfl
  | nameQuote recent =>
      rcases eq_of_isBreak hc with rfl | rfl | rfl <;> rfl
  | _ =>
      cases hmode

private theorem scan_of_breaks {mode : Mode} {s : List Char} (hmode : isSettled mode = true)
    (hs : Breaks s) :
    scan mode s = flush mode ++ lex s := by
  cases s with
  | nil =>
      exact (List.append_nil _).symm
  | cons c s =>
      have hstep := step_of_isBreak hmode (hs c rfl)
      rw [lex, scan, scan, run_cons, run_cons, hstep, finish, step]
      simp only [List.append_assoc]

/-- A text that leaves the reader in a settled state can be read by itself before a space,
a comma or a closing parenthesis. -/
theorem lex_append_of_settled {s t : List Char}
    (hs : isSettled (run .between s).2 = true) (ht : Breaks t) :
    lex (s ++ t) = lex s ++ lex t := by
  have hself : lex s = (run .between s).1 ++ flush (run .between s).2 := rfl
  rw [hself, lex, scan_append, scan_of_breaks hs ht, List.append_assoc]

end Lexer
end Statement
end Audience
