import Audience.Yaml.Token

/-!
# Documents

The nodes of a document: scalars, sequences and mappings.  An alias is the node that its
anchor marks.
-/

namespace Audience
namespace Yaml

inductive Node where
  | scalar (style : Style) (tag : Option (List Char)) (text : List Char)
  | sequence (items : List Node)
  | mapping (pairs : List (Node × Node))

def Node.empty : Node :=
  .scalar .plain none []

structure Reading where
  tokens : List Token
  anchors : List (List Char × Node) := []
  handles : List (List Char × List Char) := []

namespace Reading

def sees (r : Reading) (kinds : List Token) : Bool :=
  match r.tokens with
  | token :: _ => kinds.contains token
  | [] => false

def next (r : Reading) : Reading :=
  { r with tokens := r.tokens.drop 1 }

def tagText? (r : Reading) (handle suffix : List Char) : Option (List Char) :=
  if handle.isEmpty then some suffix
  else
    match r.handles.lookup handle with
    | some start => some (start ++ suffix)
    | none =>
        if handle == ['!'] then some ('!' :: suffix)
        else if handle == ['!', '!'] then some ("tag:yaml.org,2002:".toList ++ suffix)
        else none

/-- Anchor and tag in front of a node, at most one of each. -/
def properties? (r : Reading) :
    Option (Option (List Char) × Option (List Char) × Reading) :=
  match r.tokens with
  | .anchor name :: .tag handle suffix :: tokens => do
      return (some name, some (← r.tagText? handle suffix), { r with tokens := tokens })
  | .tag handle suffix :: .anchor name :: tokens => do
      return (some name, some (← r.tagText? handle suffix), { r with tokens := tokens })
  | .anchor name :: tokens => some (some name, none, { r with tokens := tokens })
  | .tag handle suffix :: tokens => do
      return (none, some (← r.tagText? handle suffix), { r with tokens := tokens })
  | _ => some (none, none, r)

def anchored (r : Reading) (anchor : Option (List Char)) (node : Node) : Reading :=
  match anchor with
  | some name => { r with anchors := (name, node) :: r.anchors }
  | none => r

end Reading

mutual

/-- A node, read in a limited number of steps.  `block` allows blocks, `hanging` allows a
sequence whose hyphens stand in the column of the mapping around it. -/
def node? : Nat -> Bool -> Bool -> Reading -> Option (Node × Reading)
  | 0, _, _, _ => none
  | steps + 1, block, hanging, r =>
      match r.tokens with
      | .alias name :: _ => (r.anchors.lookup name).map fun node => (node, r.next)
      | _ => do
          let (anchor, tag, inner) ← r.properties?
          let (node, after) ←
            match inner.tokens with
            | .item :: _ =>
                if hanging then
                  (hangingItems? steps inner []).map fun (items, r) => (.sequence items, r)
                else if anchor.isSome || tag.isSome then some (.scalar .plain tag [], inner)
                else none
            | .scalar style text :: _ => some (.scalar style tag text, inner.next)
            | .flowSequence :: _ =>
                (flowItems? steps true inner.next []).map fun (items, r) => (.sequence items, r)
            | .flowMapping :: _ =>
                (flowPairs? steps true inner.next []).map fun (pairs, r) => (.mapping pairs, r)
            | token :: _ =>
                if block && token == .blockSequence then
                  (blockItems? steps inner.next []).map fun (items, r) => (.sequence items, r)
                else if block && token == .blockMapping then
                  (blockPairs? steps inner.next []).map fun (pairs, r) => (.mapping pairs, r)
                else if anchor.isSome || tag.isSome then some (.scalar .plain tag [], inner)
                else none
            | [] =>
                if anchor.isSome || tag.isSome then some (.scalar .plain tag [], inner) else none
          return (node, after.anchored anchor node)

def blockItems? : Nat -> Reading -> List Node -> Option (List Node × Reading)
  | 0, _, _ => none
  | steps + 1, r, before =>
      if r.sees [.item] then
        if r.next.sees [.item, .blockEnd] then blockItems? steps r.next (.empty :: before)
        else
          match node? steps true false r.next with
          | some (node, r) => blockItems? steps r (node :: before)
          | none => none
      else if r.sees [.blockEnd] then some (before.reverse, r.next)
      else none

def hangingItems? : Nat -> Reading -> List Node -> Option (List Node × Reading)
  | 0, _, _ => none
  | steps + 1, r, before =>
      if r.sees [.item] then
        if r.next.sees [.item, .key, .value, .blockEnd] then
          hangingItems? steps r.next (.empty :: before)
        else
          match node? steps true false r.next with
          | some (node, r) => hangingItems? steps r (node :: before)
          | none => none
      else some (before.reverse, r)

def blockPairs? :
    Nat -> Reading -> List (Node × Node) -> Option (List (Node × Node) × Reading)
  | 0, _, _ => none
  | steps + 1, r, before =>
      if r.sees [.blockEnd] then some (before.reverse, r.next)
      else if !r.sees [.key] then none
      else do
        let (key, r) ←
          if r.next.sees [.key, .value, .blockEnd] then some (Node.empty, r.next)
          else node? steps true true r.next
        let (value, r) ←
          if r.sees [.value] then
            if r.next.sees [.key, .value, .blockEnd] then some (.empty, r.next)
            else node? steps true true r.next
          else some (Node.empty, r)
        blockPairs? steps r ((key, value) :: before)

def flowValue? : Nat -> Token -> Reading -> Option (Node × Reading)
  | 0, _, _ => none
  | steps + 1, closing, r =>
      if r.sees [.value] then
        if r.next.sees [.comma, closing] then some (.empty, r.next)
        else node? steps false false r.next
      else some (.empty, r)

def flowKey? : Nat -> Token -> Reading -> Option (Node × Reading)
  | 0, _, _ => none
  | steps + 1, closing, r =>
      if r.sees [.value, .comma, closing] then some (.empty, r)
      else node? steps false false r

/-- The items in brackets; a pair among them is a mapping of its own. -/
def flowItems? : Nat -> Bool -> Reading -> List Node -> Option (List Node × Reading)
  | 0, _, _, _ => none
  | steps + 1, first, r, before =>
      if r.sees [.flowSequenceEnd] then some (before.reverse, r.next)
      else if !first && !r.sees [.comma] then none
      else
        let r := if first then r else r.next
        if r.sees [.flowSequenceEnd] then some (before.reverse, r.next)
        else if r.sees [.key] then do
          let (key, r) ← flowKey? steps .flowSequenceEnd r.next
          let (value, r) ← flowValue? steps .flowSequenceEnd r
          flowItems? steps false r (.mapping [(key, value)] :: before)
        else
          match node? steps false false r with
          | some (node, r) => flowItems? steps false r (node :: before)
          | none => none

/-- The pairs in brackets; a key may stand without a value. -/
def flowPairs? :
    Nat -> Bool -> Reading -> List (Node × Node) -> Option (List (Node × Node) × Reading)
  | 0, _, _, _ => none
  | steps + 1, first, r, before =>
      if r.sees [.flowMappingEnd] then some (before.reverse, r.next)
      else if !first && !r.sees [.comma] then none
      else
        let r := if first then r else r.next
        if r.sees [.flowMappingEnd] then some (before.reverse, r.next)
        else if r.sees [.key] then do
          let (key, r) ← flowKey? steps .flowMappingEnd r.next
          let (value, r) ← flowValue? steps .flowMappingEnd r
          flowPairs? steps false r ((key, value) :: before)
        else
          match node? steps false false r with
          | some (node, r) => flowPairs? steps false r ((node, .empty) :: before)
          | none => none

end

/-!
# Whole texts
-/

/-- The directives in front of a document, of which the version may be given once and each
handle once. -/
def directives? (version : Bool) (handles : List (List Char × List Char)) :
    List Token -> Option (Bool × List (List Char × List Char) × List Token)
  | .version :: tokens => if version then none else directives? true handles tokens
  | .tagHandle handle start :: tokens =>
      if (handles.lookup handle).isSome then none
      else directives? version ((handle, start) :: handles) tokens
  | tokens => some (version || !handles.isEmpty, handles, tokens)

def document? (tokens : List Token) : Option (Node × List Token) := do
  let (directed, handles, tokens) ← directives? false [] tokens
  let (started, tokens) ←
    match tokens with
    | .documentStart :: tokens => some (true, tokens)
    | tokens => if directed then none else some (false, tokens)
  let r : Reading := { tokens := tokens, handles := handles }
  if started && (tokens.isEmpty || r.sees [.documentEnd]) then return (Node.empty, tokens)
  let (node, r) ← node? (2 * tokens.length + 2) true false r
  return (node, r.tokens)

inductive Content where
  | nothing
  | document (node : Node)

/-- The content of a text.  Behind the document only marks of its end may stand. -/
def read? (text : String) : Option Content := do
  let tokens ← tokensOf? text
  if tokens.isEmpty then return .nothing
  let (node, tokens) ← document? tokens
  if tokens.all (· == .documentEnd) then return .document node else none

end Yaml
end Audience
