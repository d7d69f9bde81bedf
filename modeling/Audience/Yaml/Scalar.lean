import Audience.Yaml.Cursor

/-!
# Scalars

Plain, quoted and block scalars.  In plain and quoted scalars a line end counts as one blank
and further line ends as themselves; the blanks around line ends are dropped.  In block
scalars the indentation is dropped, and a header says what becomes of the last line ends.
-/

namespace Audience
namespace Yaml

inductive Style where
  | plain
  | quoted
  | literal
  | folded
  deriving DecidableEq, Repr

structure Gap where
  /-- The blanks, as long as no line has ended. -/
  blanks : List Char := []
  /-- A line has ended. -/
  broken : Bool := false
  /-- The first line end was hidden behind a backslash. -/
  hidden : Bool := false
  /-- The line ends, other than a hidden one. -/
  breaks : List Char := []

def Gap.text (gap : Gap) : List Char :=
  if !gap.broken then gap.blanks
  else if gap.hidden then gap.breaks
  else
    match gap.breaks with
    | '\n' :: more => if more.isEmpty then [' '] else more
    | breaks => breaks

/-- The gap in front, read in a limited number of steps.  Where an indentation is given, no
tab may stand in it. -/
def readGap? (indentation : Option Nat) : Nat -> Gap -> Cursor -> Option (Gap × Cursor)
  | 0, gap, c => some (gap, c)
  | steps + 1, gap, c =>
      match c.rest with
      | [] => some (gap, c)
      | x :: _ =>
          if isSpace x then
            if gap.broken && x == '\t' && indentation.any (c.column < ·) then none
            else if gap.broken then readGap? indentation steps gap c.next
            else readGap? indentation steps { gap with blanks := gap.blanks ++ [x] } c.next
          else if isBreak x then
            let (text, c) := c.newline
            readGap? indentation steps
              { gap with blanks := [], broken := true, breaks := gap.breaks ++ text } c
          else
            some (gap, c)

/-!
# Plain scalars
-/

def isFlowMark (c : Char) : Bool :=
  c == ',' || c == '[' || c == ']' || c == '\x7b' || c == '\x7d'

/-- The characters of a plain scalar up to a blank, a line end or a mark.  Inside brackets a
colon may not stand directly before a bracket or a comma. -/
def plainChunk? (inBrackets : Bool) : List Char -> Option (List Char)
  | [] => some []
  | x :: rest =>
      let colonBeforeMark :=
        inBrackets && x == ':' &&
          match rest with
          | y :: _ => isFlowMark y || y == '?'
          | [] => false
      if isSpace x || isBreak x then some []
      else if colonBeforeMark then none
      else if (x == ':' && endsWord rest) || (inBrackets && isFlowMark x) then some []
      else (plainChunk? inBrackets rest).map (x :: ·)

def readPlain? (inBrackets : Bool) (indentation : Nat) :
    Nat -> List Char -> Gap -> Cursor -> Option (List Char × Bool × Cursor)
  | 0, _, _, _ => none
  | steps + 1, before, gap, c =>
      if c.atDocumentMark || c.sees (· == '#') then some (before, gap.broken, c)
      else
        match plainChunk? inBrackets c.rest with
        | none => none
        | some chunk =>
            let before := if chunk.isEmpty then before else before ++ gap.text ++ chunk
            let gap := if chunk.isEmpty then gap else {}
            let c := c.skip chunk.length
            if !(c.sees fun x => isSpace x || isBreak x) then some (before, gap.broken, c)
            else
              match readGap? (some indentation) c.rest.length gap c with
              | none => none
              | some (gap, c) =>
                  if !inBrackets && c.column < indentation then some (before, gap.broken, c)
                  else readPlain? inBrackets indentation steps before gap c

/-!
# Quoted scalars
-/

def escapedChar? (c : Char) : Option Char :=
  match c with
  | '0' => some '\u0000'
  | 'a' => some '\u0007'
  | 'b' => some '\u0008'
  | 't' => some '\t'
  | '\t' => some '\t'
  | 'n' => some '\n'
  | 'v' => some '\u000B'
  | 'f' => some '\u000C'
  | 'r' => some '\r'
  | 'e' => some '\u001B'
  | ' ' => some ' '
  | '"' => some '"'
  | '/' => some '/'
  | '\\' => some '\\'
  | 'N' => some '\u0085'
  | '_' => some '\u00A0'
  | 'L' => some '\u2028'
  | 'P' => some '\u2029'
  | _ => none

def escapeLength? (c : Char) : Option Nat :=
  match c with
  | 'x' => some 2
  | 'u' => some 4
  | 'U' => some 8
  | _ => none

def hexValue? (c : Char) : Option Nat :=
  if c.isDigit then some (c.toNat - 0x30)
  else if 'a' <= c && c <= 'f' then some (c.toNat - 0x57)
  else if 'A' <= c && c <= 'F' then some (c.toNat - 0x37)
  else none

def numberedChar? (length : Nat) (s : List Char) : Option Char :=
  let digits := s.take length
  if digits.length < length then none
  else do
    let values ← digits.mapM hexValue?
    let n := values.foldl (fun n d => 16 * n + d) 0
    if n.isValidChar then some (Char.ofNat n) else none

def quoteMark (single : Bool) : Char :=
  if single then '\u0027' else '"'

/-- A quoted scalar behind its opening mark, given the characters before in reverse order. -/
def readQuoted? (single : Bool) : Nat -> List Char -> Cursor -> Option (List Char × Cursor)
  | 0, _, _ => none
  | steps + 1, before, c =>
      if c.atDocumentMark then none
      else
        match c.rest with
        | [] => none
        | x :: rest =>
            if x == quoteMark single then
              if single && rest.head? == some x then
                readQuoted? single steps (x :: before) (c.skip 2)
              else
                some (before.reverse, c.next)
            else if isSpace x || isBreak x then
              match readGap? none c.rest.length {} c with
              | none => none
              | some (gap, c) => readQuoted? single steps (gap.text.reverse ++ before) c
            else if !single && x == '\\' then
              match rest with
              | [] => none
              | y :: more =>
                  if isBreak y then
                    let after := c.next.newline.2
                    match readGap? none more.length { broken := true, hidden := true } after with
                    | none => none
                    | some (gap, c) => readQuoted? single steps (gap.text.reverse ++ before) c
                  else
                    match escapedChar? y, escapeLength? y with
                    | some value, _ => readQuoted? single steps (value :: before) (c.skip 2)
                    | none, some length =>
                        match numberedChar? length more with
                        | some value =>
                            readQuoted? single steps (value :: before) (c.skip (2 + length))
                        | none => none
                    | none, none => none
            else
              readQuoted? single steps (x :: before) c.next

/-!
# Block scalars
-/

inductive Chomping where
  | strip
  | clip
  | keep
  deriving DecidableEq, Repr

def chomping? (c : Cursor) : Option Chomping :=
  match c.rest with
  | '+' :: _ => some .keep
  | '-' :: _ => some .strip
  | _ => none

/-- The indentation that a digit stands for; zero is no indentation. -/
def increment? (c : Cursor) : Option Nat :=
  match c.rest with
  | x :: _ => if x.isDigit then some (x.toNat - 0x30) else none
  | [] => none

/-- The header of a block scalar: chomping and indentation in either order, and perhaps a
comment.  The cursor ends up in the next line. -/
def readHeader? (c : Cursor) : Option (Chomping × Option Nat × Cursor) :=
  let (chomping, increment, c) :=
    match chomping? c with
    | some chomping =>
        let increment := increment? c.next
        (chomping, increment, c.skip (1 + increment.toList.length))
    | none =>
        match increment? c with
        | some increment =>
            let chomping := chomping? c.next
            (chomping.getD .clip, some increment, c.skip (1 + chomping.toList.length))
        | none => (.clip, none, c)
  let c := (c.takeWhile isSpace).2.skipComment
  if increment == some 0 || !c.atLineEnd then none
  else some (chomping, increment, c.newline.2)

/-- Empty lines in front of a line of a block scalar, the indentation of that line or the
greatest one so far, and the cursor behind the indentation. -/
def readEmptyLines? (indentation : Option Nat) :
    Nat -> Nat -> List Char -> Cursor -> Option (Nat × List Char × Cursor)
  | 0, _, _, _ => none
  | steps + 1, deepest, breaks, c =>
      let room := indentation.map (· - c.column)
      let blanks := (c.rest.takeWhile (· == ' ')).length
      let c := c.skip (match room with
        | some room => min room blanks
        | none => blanks)
      let deepest := max deepest c.column
      let shallow :=
        match indentation with
        | some indentation => c.column < indentation
        | none => true
      if shallow && c.sees (· == '\t') then none
      else if c.sees isBreak then
        let (text, c) := c.newline
        readEmptyLines? indentation steps deepest (breaks ++ text) c
      else
        some (deepest, breaks, c)

/-- The lines of a block scalar that stand at its indentation.  `lineEnd` and `empties` are
the line ends not written yet, `indented` tells whether the line before begins with a
blank. -/
def readLines? (folded : Bool) (indentation : Nat) :
    Nat -> List Char -> List Char -> List Char -> Bool -> Cursor ->
      Option (List Char × List Char × List Char × Cursor)
  | 0, _, _, _, _, _ => none
  | steps + 1, before, lineEnd, empties, indented, c =>
      if c.column != indentation || c.rest.isEmpty then some (before, lineEnd, empties, c)
      else
        let blank := c.sees isSpace
        let joined :=
          if folded && lineEnd == ['\n'] && !indented && !blank then
            if empties.isEmpty then [' '] else []
          else lineEnd
        let (line, c) := c.takeWhile fun _ => true
        let (lineEnd, c) := c.newline
        match readEmptyLines? (some indentation) (c.rest.length + 1) 0 [] c with
        | none => none
        | some (_, breaks, c) =>
            readLines? folded indentation steps (before ++ joined ++ empties ++ line)
              lineEnd breaks blank c

def readBlock? (folded : Bool) (parent : Int) (c : Cursor) : Option (List Char × Cursor) := do
  let (chomping, increment, c) ← readHeader? c
  let given := increment.map fun n => if 0 <= parent then parent.toNat + n else n
  let (deepest, breaks, c) ← readEmptyLines? given (c.rest.length + 1) 0 [] c
  let indentation := given.getD (max deepest (max (parent + 1).toNat 1))
  let (text, lineEnd, empties, c) ←
    readLines? folded indentation (c.rest.length + 1) [] [] breaks false c
  let ending :=
    match chomping with
    | .strip => []
    | .clip => lineEnd
    | .keep => lineEnd ++ empties
  return (text ++ ending, c)

end Yaml
end Audience
