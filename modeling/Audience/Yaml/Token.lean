import Audience.Yaml.Scalar

/-!
# Tokens

A document is first cut into tokens.  The indentation of blocks turns into tokens of its
own, which open and close mappings and sequences.  That a scalar is a key shows only at the
colon behind it, so the tokens in front of it are put in later.
-/

namespace Audience
namespace Yaml

inductive Token where
  | version
  /-- A handle and what it stands for in front of tags. -/
  | tagHandle (handle start : List Char)
  | documentStart
  | documentEnd
  | blockSequence
  | blockMapping
  | blockEnd
  | flowSequence
  | flowSequenceEnd
  | flowMapping
  | flowMappingEnd
  /-- The hyphen in front of an item. -/
  | item
  | comma
  | key
  | value
  | alias (name : List Char)
  | anchor (name : List Char)
  | tag (handle suffix : List Char)
  | scalar (style : Style) (text : List Char)
  deriving DecidableEq, Repr

structure KeyPlace where
  /-- Nothing but a key can stand here. -/
  required : Bool
  /-- The number of tokens in front. -/
  position : Nat
  index : Nat
  line : Nat
  column : Nat
  deriving DecidableEq, Repr

structure Scan where
  cursor : Cursor
  tokens : Array Token := #[]
  /-- The column of the innermost block, and those around it. -/
  indentation : Int := -1
  outer : List Int := []
  /-- The brackets that are open. -/
  depth : Nat := 0
  /-- Where a key may have begun: in the innermost brackets, and in those around them. -/
  place : Option KeyPlace := none
  places : List (Option KeyPlace) := []
  /-- A key may begin here. -/
  keyAllowed : Bool := true

namespace Scan

def inBrackets (s : Scan) : Bool :=
  s.depth != 0

def push (s : Scan) (token : Token) : Scan :=
  { s with tokens := s.tokens.push token }

def openBlock (s : Scan) (column : Nat) (position : Option Nat) (token : Token) : Scan :=
  if s.inBrackets || (column : Int) <= s.indentation then s
  else
    { s with
      indentation := column
      outer := s.indentation :: s.outer
      tokens :=
        match position with
        | some position => s.tokens.insertIdxIfInBounds position token
        | none => s.tokens.push token }

def closeBlocks (s : Scan) (column : Int) : Scan :=
  if s.inBrackets then s
  else
    let closed := (s.indentation :: s.outer).takeWhile (column < ·)
    let left := (s.indentation :: s.outer).dropWhile (column < ·)
    { s with
      tokens := s.tokens ++ (closed.map fun _ => Token.blockEnd).toArray
      indentation := left.headD (-1)
      outer := left.drop 1 }

/-- Gives up the place of a key, unless a key is required there. -/
def dropPlace? (s : Scan) : Option Scan :=
  match s.place with
  | some place => if place.required then none else some { s with place := none }
  | none => some s

def notePlace? (s : Scan) : Option Scan :=
  if !s.keyAllowed then some s
  else do
    let s ← s.dropPlace?
    let required := !s.inBrackets && s.indentation == (s.cursor.column : Int)
    return { s with
      place := some {
        required := required
        position := s.tokens.size
        index := s.cursor.index
        line := s.cursor.line
        column := s.cursor.column } }

def longestKey : Nat := 1024

/-- A key must end in its line, and not too far away. -/
def KeyPlace.isStale (s : Scan) (place : KeyPlace) : Bool :=
  place.line < s.cursor.line || place.index + longestKey < s.cursor.index

def fresh? (s : Scan) (place : Option KeyPlace) : Option (Option KeyPlace) :=
  match place with
  | some p =>
      if KeyPlace.isStale s p then if p.required then none else some none else some (some p)
  | none => some none

def dropStale? (s : Scan) : Option Scan := do
  return { s with place := ← s.fresh? s.place, places := ← s.places.mapM s.fresh? }

def skipToToken : Nat -> Scan -> Scan
  | 0, s => s
  | steps + 1, s =>
      let c := s.cursor
      let c := if c.column == 0 && c.sees (· == '\uFEFF') then c.next else c
      let tabs := s.inBrackets || !s.keyAllowed
      let c := (c.takeWhile fun x => x == ' ' || (tabs && x == '\t')).2.skipComment
      if c.sees isBreak then
        skipToToken steps
          { s with cursor := c.newline.2, keyAllowed := s.keyAllowed || !s.inBrackets }
      else
        { s with cursor := c }

/-!
# The kinds of tokens
-/

def advance (s : Scan) (count : Nat) : Scan :=
  { s with cursor := s.cursor.skip count }

def documentMark? (s : Scan) : Option Scan := do
  let s ← (s.closeBlocks (-1)).dropPlace?
  let token := if s.cursor.sees (· == '-') then Token.documentStart else .documentEnd
  return { (s.advance 3).push token with keyAllowed := false }

def openBracket? (s : Scan) (token : Token) : Option Scan := do
  let s ← s.notePlace?
  return { (s.advance 1).push token with
    depth := s.depth + 1
    places := s.place :: s.places
    place := none
    keyAllowed := true }

def closeBracket? (s : Scan) (token : Token) : Option Scan := do
  let s ← s.dropPlace?
  let (place, places) :=
    match s.places with
    | place :: places => (place, places)
    | [] => (none, [])
  return { (s.advance 1).push token with
    depth := s.depth - 1
    place := place
    places := places
    keyAllowed := false }

def comma? (s : Scan) : Option Scan := do
  let s ← s.dropPlace?
  return { (s.advance 1).push .comma with keyAllowed := true }

def item? (s : Scan) : Option Scan := do
  if !s.inBrackets && !s.keyAllowed then none
  let s ← (s.openBlock s.cursor.column none .blockSequence).dropPlace?
  return { (s.advance 1).push .item with keyAllowed := true }

def key? (s : Scan) : Option Scan := do
  if !s.inBrackets && !s.keyAllowed then none
  let s ← (s.openBlock s.cursor.column none .blockMapping).dropPlace?
  return { (s.advance 1).push .key with keyAllowed := !s.inBrackets }

/-- The colon in front of a value.  If a key began earlier, its tokens are put in there. -/
def value? (s : Scan) : Option Scan :=
  match s.place with
  | some place =>
      let s := { s with tokens := s.tokens.insertIdxIfInBounds place.position .key, place := none }
      let s := s.openBlock place.column (some place.position) .blockMapping
      some { (s.advance 1).push .value with keyAllowed := false }
  | none =>
      if !s.inBrackets && !s.keyAllowed then none
      else
        let s := s.openBlock s.cursor.column none .blockMapping
        some { (s.advance 1).push .value with keyAllowed := !s.inBrackets }

def name? (s : Scan) (token : List Char -> Token) : Option Scan := do
  let s ← s.notePlace?
  let (name, c) := s.cursor.next.takeWhile isWordChar
  let ends :=
    match c.rest with
    | [] => true
    | x :: _ => endsWord c.rest || "?:,]\x7d%@\u0060".toList.contains x
  if name.isEmpty || !ends then none
  return { s.push (token name) with cursor := c, keyAllowed := false }

def isTagChar (whole : Bool) (c : Char) : Bool :=
  isWordChar c || ";/?:@&=+$.!~*\u0027()%".toList.contains c ||
    (whole && (c == ',' || c == '[' || c == ']'))

def tagParts? (c : Cursor) : Option (List Char × List Char × Cursor) :=
  match c.rest with
  | '!' :: '<' :: _ =>
      let (suffix, c) := (c.skip 2).takeWhile (isTagChar true)
      if suffix.isEmpty || !c.sees (· == '>') then none else some ([], suffix, c.next)
  | _ =>
      let (word, c₁) := c.next.takeWhile isWordChar
      if c₁.sees (· == '!') then
        let (suffix, c) := c₁.next.takeWhile (isTagChar false)
        if suffix.isEmpty then none else some ('!' :: word ++ ['!'], suffix, c)
      else
        let (suffix, c) := c.next.takeWhile (isTagChar false)
        if suffix.isEmpty then some ([], ['!'], c) else some (['!'], suffix, c)

def tag? (s : Scan) : Option Scan := do
  let s ← s.notePlace?
  let (handle, suffix, c) ← tagParts? s.cursor
  if !endsWord c.rest && !(s.inBrackets && c.sees (· == ',')) then none
  return { s.push (.tag handle suffix) with cursor := c, keyAllowed := false }

def block? (s : Scan) (folded : Bool) : Option Scan := do
  let s ← s.dropPlace?
  let (text, c) ← readBlock? folded s.indentation s.cursor.next
  let style := if folded then Style.folded else .literal
  return { s.push (.scalar style text) with cursor := c, keyAllowed := true }

def quoted? (s : Scan) (single : Bool) : Option Scan := do
  let s ← s.notePlace?
  let c := s.cursor.next
  let (text, c) ← readQuoted? single (c.rest.length + 1) [] c
  return { s.push (.scalar .quoted text) with cursor := c, keyAllowed := false }

def plain? (s : Scan) : Option Scan := do
  let s ← s.notePlace?
  let c := s.cursor
  let (text, broken, c) ←
    readPlain? s.inBrackets (s.indentation + 1).toNat (c.rest.length + 1) [] {} c
  return { s.push (.scalar .plain text) with cursor := c, keyAllowed := broken }

def version? (c : Cursor) : Option Cursor :=
  match (c.takeWhile isSpace).2.rest with
  | '1' :: '.' :: x :: rest =>
      if (x == '1' || x == '2') && !(rest.head?.any Char.isDigit) then
        some ((c.takeWhile isSpace).2.skip 3)
      else none
  | _ => none

def handle? (c : Cursor) : Option (List Char × List Char × Cursor) := do
  let c := (c.takeWhile isSpace).2
  if !c.sees (· == '!') then none
  let (word, after) := c.next.takeWhile isWordChar
  let (handle, c) ←
    if after.sees (· == '!') then some ('!' :: word ++ ['!'], after.next)
    else if word.isEmpty then some (['!'], after)
    else none
  if !c.sees isSpace then none
  let (start, c) := ((c.takeWhile isSpace).2).takeWhile (isTagChar true)
  if start.isEmpty || !endsWord c.rest then none
  return (handle, start, c)

def directive? (s : Scan) : Option Scan := do
  let s ← (s.closeBlocks (-1)).dropPlace?
  let (name, c) := s.cursor.next.takeWhile isWordChar
  let (token, c) ←
    if name == "YAML".toList then (version? c).map fun c => (Token.version, c)
    else if name == "TAG".toList then
      (handle? c).map fun (handle, start, c) => (Token.tagHandle handle start, c)
    else none
  let c := (c.takeWhile isSpace).2.skipComment
  if !c.atLineEnd then none
  return { s.push token with cursor := c.newline.2, keyAllowed := false }

/-- Whether a plain scalar can begin with a character, given what follows it. -/
def beginsPlain (s : Scan) (x : Char) (rest : List Char) : Bool :=
  !(isSpace x || isBreak x || "-?:,[]\x7b\x7d#&*!|>\u0027\"%@\u0060".toList.contains x) ||
    (x == '-' && !(rest.head?.any isSpace)) ||
    (!s.inBrackets && (x == '?' || x == ':') && !endsWord rest)

def tokenAt? (s : Scan) (x : Char) (rest : List Char) : Option Scan :=
  if s.cursor.column == 0 && x == '%' then s.directive?
  else if s.cursor.atDocumentMark then s.documentMark?
  else if x == '[' then s.openBracket? .flowSequence
  else if x == '\x7b' then s.openBracket? .flowMapping
  else if x == ']' then s.closeBracket? .flowSequenceEnd
  else if x == '\x7d' then s.closeBracket? .flowMappingEnd
  else if x == ',' then s.comma?
  else if x == '-' && endsWord rest then s.item?
  else if x == '?' && (s.inBrackets || endsWord rest) then s.key?
  else if x == ':' && (s.inBrackets || endsWord rest) then s.value?
  else if x == '*' then s.name? .alias
  else if x == '&' then s.name? .anchor
  else if x == '!' then s.tag?
  else if x == '|' && !s.inBrackets then s.block? false
  else if x == '>' && !s.inBrackets then s.block? true
  else if x == quoteMark true then s.quoted? true
  else if x == quoteMark false then s.quoted? false
  else if s.beginsPlain x rest then s.plain?
  else none

def tokens? : Nat -> Scan -> Option (List Token)
  | 0, _ => none
  | steps + 1, s => do
      let s ← (skipToToken (s.cursor.rest.length + 1) s).dropStale?
      let s := s.closeBlocks s.cursor.column
      match s.cursor.rest with
      | [] =>
          let s ← (s.closeBlocks (-1)).dropPlace?
          return s.tokens.toList
      | x :: rest => tokens? steps (← s.tokenAt? x rest)

end Scan

def tokensOf? (s : String) : Option (List Token) :=
  let s :=
    match s.toList with
    | '\uFEFF' :: rest => rest
    | s => s
  if s.all isAllowed then Scan.tokens? (s.length + 1) { cursor := { rest := s } } else none

end Yaml
end Audience
