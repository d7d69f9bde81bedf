import Audience.Proofs.LowerCase
import Audience.Proofs.StatementTokens

/-!
# Texts do not change the structure of a statement

Plans of the same shape differ only in the strings that they carry.  Their statements have
the same tokens but for the texts and aliases that stand for these strings, and a token that
stands for a string without control characters stands for exactly this string.

The statements are compared piece by piece.  Two sequences are aligned when their elements
correspond one by one and each pair uses up the strings that it stands for, from left to
right; this relation is the same for pieces, for tokens and for the parts of conditions.
-/

namespace Audience

/-!
# Shapes and carried strings
-/

/-- A string that a plan carries into its statement. -/
inductive Carried where
  | value (s : String)
  /-- A wildcard pattern, which is written in lower case. -/
  | pattern (s : String)
  deriving DecidableEq, Repr

def Carried.source : Carried -> String
  | value s => s
  | pattern s => s

def Carried.written : Carried -> String
  | value s => s
  | pattern s => Text.lowered s

def Relation.blank : Relation -> Relation
  | .userField _ => .userField ""
  | relation => relation

def Relation.carried : Relation -> List Carried
  | .userField name => [.value name]
  | _ => []

namespace Predicate

mutual

def blank : Predicate -> Predicate
  | columnIn column values => columnIn column (values.map fun _ => "")
  | columnIs column _ => columnIs column ""
  | related relation values =>
      related relation.blank (values.map fun values => values.map fun _ => "")
  | like target _ => like target ""
  | all parts => all (blanks parts)
  | any parts => any (blanks parts)
  | not inner => not inner.blank
  | p => p

def blanks : List Predicate -> List Predicate
  | [] => []
  | p :: rest => p.blank :: blanks rest

end

mutual

/-- The strings of a predicate in the order in which they are written. -/
def carried : Predicate -> List Carried
  | columnIn _ values => values.map .value
  | columnIs _ value => [.value value]
  | related relation values => relation.carried ++ (values.getD []).map .value
  | like _ pattern => [.pattern pattern]
  | all parts => carriedAll parts
  | any parts => carriedAll parts
  | not inner => inner.carried
  | _ => []

def carriedAll : List Predicate -> List Carried
  | [] => []
  | p :: rest => p.carried ++ carriedAll rest

end

end Predicate

def OutputColumn.blank : OutputColumn -> OutputColumn
  | .userField _ => .userField ""
  | column => column

/-- The strings of a result column: the name of a custom field is also its alias. -/
def OutputColumn.carried : OutputColumn -> List Carried
  | .userField name => [.value name, .value name]
  | _ => []

/-- A plan without its strings.  Plans have the same shape if these are equal. -/
def Plan.blank (plan : Plan) : Plan :=
  ⟨plan.selection.blank, plan.columns.map OutputColumn.blank, plan.isDistinct⟩

def Plan.carried (plan : Plan) : List Carried :=
  plan.columns.flatMap OutputColumn.carried ++ plan.selection.carried

namespace Statement

open Lexer

/-!
# Aligned sequences
-/

section

variable {α β : Type} {R : List Carried -> List Carried -> α -> α -> Prop}
variable {S : List Carried -> List Carried -> β -> β -> Prop}
variable {cs ds cs' ds' : List Carried}

/-- Two sequences whose elements correspond one by one, where each pair uses up the strings
that it stands for. -/
inductive Aligned (R : List Carried -> List Carried -> α -> α -> Prop) :
    List Carried -> List Carried -> List α -> List α -> Prop where
  | nil : Aligned R [] [] [] []
  | cons {cs ds cs' ds' : List Carried} {a b : α} {as bs : List α} (h : R cs ds a b)
      (rest : Aligned R cs' ds' as bs) :
      Aligned R (cs ++ cs') (ds ++ ds') (a :: as) (b :: bs)

theorem Aligned.single {a b : α} (h : R cs ds a b) : Aligned R cs ds [a] [b] := by
  simpa using Aligned.cons h Aligned.nil

theorem Aligned.refl (h : forall a, R [] [] a a) (as : List α) : Aligned R [] [] as as := by
  induction as with
  | nil =>
      exact .nil
  | cons a as ih =>
      exact .cons (h a) ih

theorem Aligned.append {as bs as' bs' : List α} (h : Aligned R cs ds as bs)
    (h' : Aligned R cs' ds' as' bs') :
    Aligned R (cs ++ cs') (ds ++ ds') (as ++ as') (bs ++ bs') := by
  induction h with
  | nil =>
      exact h'
  | cons hfirst hrest ih =>
      rw [List.append_assoc, List.append_assoc]
      exact .cons hfirst ih

theorem Aligned.flatMap {f : α -> List β}
    (hf : forall cs ds a b, R cs ds a b -> Aligned S cs ds (f a) (f b)) {as bs : List α}
    (h : Aligned R cs ds as bs) :
    Aligned S cs ds (as.flatMap f) (bs.flatMap f) := by
  induction h with
  | nil =>
      exact .nil
  | cons hfirst hrest ih =>
      exact (hf _ _ _ _ hfirst).append ih

end

/-!
# Pieces and tokens
-/

/-- Pieces that correspond: the same piece, or two pieces of one kind that hold a string of
either plan. -/
inductive PieceTwin : List Carried -> List Carried -> Piece -> Piece -> Prop where
  | same (piece : Piece) : PieceTwin [] [] piece piece
  | text (c d : Carried) : PieceTwin [c] [d] (.text c.written) (.text d.written)
  | name (c d : Carried) : PieceTwin [c] [d] (.name c.written) (.name d.written)

def Token.IsText : Token -> Prop
  | .text _ | .escaped _ => True
  | _ => False

def Token.IsName : Token -> Prop
  | .name _ => True
  | _ => False

/-- A token that stands for a carried string, unless control characters are in it. -/
def Token.Spells (token : Token) (c : Carried) : Prop :=
  (forall char, char ∈ c.source.toList -> isControl char = false) ->
    token.value? = some c.written.toList

inductive TokenTwin : List Carried -> List Carried -> Token -> Token -> Prop where
  | same (token : Token) : TokenTwin [] [] token token
  | text {u v : Token} {c d : Carried} (hu : u.IsText) (hv : v.IsText) (hc : u.Spells c)
      (hd : v.Spells d) : TokenTwin [c] [d] u v
  | name {u v : Token} {c d : Carried} (hu : u.IsName) (hv : v.IsName) (hc : u.Spells c)
      (hd : v.Spells d) : TokenTwin [c] [d] u v

private theorem Carried.written_control {c : Carried}
    (h : forall char, char ∈ c.source.toList -> isControl char = false) :
    forall char, char ∈ c.written.toList -> isControl char = false := by
  cases c with
  | value s =>
      exact h
  | pattern s =>
      exact isControl_lowered h

theorem textToken_isText (s : List Char) : (textToken s).IsText := by
  unfold textToken
  split <;> trivial

private theorem textToken_spells (c : Carried) : (textToken c.written.toList).Spells c := by
  intro h
  apply value_textToken
  intro hzero
  cases Carried.written_control h '\x00' hzero

private theorem nameToken_spells (c : Carried) : (nameToken c.written.toList).Spells c := by
  intro _
  exact value_nameToken c.written.toList

theorem PieceTwin.tokens {cs ds : List Carried} {p q : Piece} (h : PieceTwin cs ds p q) :
    Aligned TokenTwin cs ds p.tokens q.tokens := by
  have htext := fun s => (run_quotedText s).2
  cases h with
  | same =>
      exact Aligned.refl TokenTwin.same _
  | text c d =>
      rw [Piece.tokens, Piece.tokens, Piece.chars, Piece.chars, htext, htext]
      exact .single (.text (textToken_isText _) (textToken_isText _) (textToken_spells c)
        (textToken_spells d))
  | name c d =>
      rw [Piece.tokens, Piece.tokens, Piece.chars, Piece.chars, lex_quotedName, lex_quotedName]
      exact .single (.name trivial trivial (nameToken_spells c) (nameToken_spells d))

theorem Aligned.tokens {cs ds : List Carried} {ps qs : List Piece}
    (h : Aligned PieceTwin cs ds ps qs) :
    Aligned TokenTwin cs ds (Statement.tokens ps) (Statement.tokens qs) := by
  have hpiece : forall cs ds p q, PieceTwin cs ds p q ->
      Aligned TokenTwin cs ds p.tokens q.tokens := by
    intro cs ds p q hpq
    exact hpq.tokens
  exact h.flatMap hpiece

/-!
# Composing pieces
-/

section

variable {cs ds cs' ds' : List Carried} {ps qs ps' qs' : List Piece}

theorem aligned_same (ps : List Piece) : Aligned PieceTwin [] [] ps ps :=
  Aligned.refl PieceTwin.same ps

theorem Aligned.before (h : Aligned PieceTwin cs ds ps qs) (others : List Piece) :
    Aligned PieceTwin cs ds (others ++ ps) (others ++ qs) :=
  (aligned_same others).append h

theorem Aligned.after (h : Aligned PieceTwin cs ds ps qs) (others : List Piece) :
    Aligned PieceTwin cs ds (ps ++ others) (qs ++ others) := by
  simpa using h.append (aligned_same others)

theorem Aligned.around (h : Aligned PieceTwin cs ds ps qs) (others : List Piece)
    (h' : Aligned PieceTwin cs' ds' ps' qs') :
    Aligned PieceTwin (cs ++ cs') (ds ++ ds') (ps ++ (others ++ ps')) (qs ++ (others ++ qs')) :=
  h.append (h'.before others)

theorem Aligned.parenthesized (h : Aligned PieceTwin cs ds ps qs) :
    Aligned PieceTwin cs ds (parenthesized ps) (parenthesized qs) :=
  (h.after [.code ")"]).before [.code "("]

theorem Aligned.joined (words : String) {parts parts' : List (List Piece)}
    (h : Aligned (Aligned PieceTwin) cs ds parts parts') :
    Aligned PieceTwin cs ds (joined words parts) (joined words parts') := by
  unfold Statement.joined
  induction h with
  | nil =>
      exact .nil
  | @cons cs ds cs' ds' part part' parts parts' hfirst hrest ih =>
      cases hrest with
      | nil =>
          simpa [List.intercalate] using hfirst
      | @cons _ _ _ _ other other' others others' hother hothers =>
          have hsplit : forall (a b : List Piece) (l : List (List Piece)),
              List.intercalate [.code words] (a :: b :: l) =
                a ++ ([.code words] ++ List.intercalate [.code words] (b :: l)) := by
            intro a b l
            simp [List.intercalate]
          rw [hsplit, hsplit]
          exact hfirst.around _ ih

end

/-!
# Tests and lookups
-/

theorem aligned_text (c d : Carried) :
    Aligned PieceTwin [c] [d] [.text c.written] [.text d.written] :=
  .single (.text c d)

private theorem aligned_values {vs ws : List String} (h : vs.length = ws.length) :
    Aligned (Aligned PieceTwin) (vs.map .value) (ws.map .value)
      (vs.map fun s => [.text s]) (ws.map fun s => [.text s]) := by
  induction vs generalizing ws with
  | nil =>
      rw [List.eq_nil_of_length_eq_zero h.symm]
      exact .nil
  | cons v vs ih =>
      cases ws with
      | nil =>
          cases h
      | cons w ws =>
          exact .cons (aligned_text (.value v) (.value w)) (ih (Nat.succ.inj h))

theorem aligned_oneOf (operand : Operand) {vs ws : List String} (h : vs.length = ws.length) :
    Aligned PieceTwin (vs.map .value) (ws.map .value)
      (Test.oneOf operand (vs.map .text)).pieces (Test.oneOf operand (ws.map .text)).pieces := by
  cases vs with
  | nil =>
      rw [List.eq_nil_of_length_eq_zero h.symm]
      exact aligned_same _
  | cons v vs =>
      cases ws with
      | nil =>
          cases h
      | cons w ws =>
          have hpieces : forall s (strings : List String),
              (Test.oneOf operand ((s :: strings).map .text)).pieces =
                operand.pieces ++ ([.code " IN ("] ++
                  (joined ", " ((s :: strings).map fun s => [.text s]) ++ [.code ")"])) := by
            intro s strings
            have hmap : ((s :: strings).map Literal.text).map Literal.pieces =
                (s :: strings).map fun s => [.text s] := by
              rw [List.map_map]
              rfl
            rw [← hmap]
            simp [Test.pieces]
          rw [hpieces, hpieces]
          exact (((aligned_values h).joined ", ").after [.code ")"]).before _ |>.before _

theorem aligned_equals (operand : Operand) (s t : String) :
    Aligned PieceTwin [.value s] [.value t] (Test.equals operand (.text s)).pieces
      (Test.equals operand (.text t)).pieces :=
  ((aligned_text (.value s) (.value t)).before [.code " = "]).before operand.pieces

theorem aligned_lookup (lookup : Lookup) {cs ds : List Carried} {tests tests' : List Test}
    (h : Aligned (Aligned PieceTwin) cs ds (tests.map Test.operand)
      (tests'.map Test.operand)) :
    Aligned PieceTwin cs ds { lookup with tests := tests }.pieces
      { lookup with tests := tests' }.pieces := by
  have htests : Aligned PieceTwin cs ds (testPieces tests) (testPieces tests') :=
    (h.joined " AND ").before [.code " WHERE "]
  rw [lookup_pieces, lookup_pieces]
  exact ((((htests.after (firstPieces lookup.first)).before _).before
    ([.code " FROM "] ++ [.name lookup.table])).before lookup.shown.pieces).before
      [.code "SELECT "]

/-!
# Conditions
-/

/-- Conditions that correspond: they bind alike and their pieces are aligned. -/
structure ConditionTwin (cs ds : List Carried) (c d : Condition) : Prop where
  binding : c.binding = d.binding
  pieces : Aligned PieceTwin cs ds c.pieces d.pieces

section

variable {cs ds cs' ds' : List Carried} {c d c' d' : Condition}

theorem ConditionTwin.refl (c : Condition) : ConditionTwin [] [] c c :=
  ⟨rfl, aligned_same c.pieces⟩

theorem ConditionTwin.enclosed (h : ConditionTwin cs ds c d) (around : Condition.Binding) :
    Aligned PieceTwin cs ds (c.enclosed around c.pieces) (d.enclosed around d.pieces) := by
  unfold Condition.enclosed
  rw [h.binding]
  split
  · exact h.pieces
  · exact h.pieces.parenthesized

theorem ConditionTwin.and (h : ConditionTwin cs ds c d) (h' : ConditionTwin cs' ds' c' d') :
    ConditionTwin (cs ++ cs') (ds ++ ds') (.and c c') (.and d d') :=
  ⟨rfl, (h.enclosed .conjunction).around [.code " AND "] (h'.enclosed .tight)⟩

theorem ConditionTwin.or (h : ConditionTwin cs ds c d) (h' : ConditionTwin cs' ds' c' d') :
    ConditionTwin (cs ++ cs') (ds ++ ds') (.or c c') (.or d d') :=
  ⟨rfl, (h.enclosed .disjunction).around [.code " OR "] (h'.enclosed .tight)⟩

theorem ConditionTwin.not (h : ConditionTwin cs ds c d) :
    ConditionTwin cs ds (.not c) (.not d) :=
  ⟨rfl, (h.enclosed .tight).before [.code "NOT "]⟩

theorem ConditionTwin.exists {l m : Lookup}
    (h : Aligned PieceTwin cs ds l.pieces m.pieces) :
    ConditionTwin cs ds (.exists l) (.exists m) :=
  ⟨rfl, (h.after [.code ")"]).before [.code "EXISTS("]⟩

theorem ConditionTwin.foldl {connective : Condition -> Condition -> Condition}
    (hconnective : forall {cs ds cs' ds' c d c' d'}, ConditionTwin cs ds c d ->
      ConditionTwin cs' ds' c' d' ->
        ConditionTwin (cs ++ cs') (ds ++ ds') (connective c c') (connective d d'))
    {parts parts' : List Condition} (hparts : Aligned ConditionTwin cs' ds' parts parts')
    (h : ConditionTwin cs ds c d) :
    ConditionTwin (cs ++ cs') (ds ++ ds') (parts.foldl connective c)
      (parts'.foldl connective d) := by
  induction hparts generalizing cs ds c d with
  | nil =>
      simpa using h
  | cons hfirst hrest ih =>
      rw [← List.append_assoc, ← List.append_assoc]
      exact ih (hconnective h hfirst)

theorem ConditionTwin.chained {connective : Condition -> Condition -> Condition}
    (hconnective : forall {cs ds cs' ds' c d c' d'}, ConditionTwin cs ds c d ->
      ConditionTwin cs' ds' c' d' ->
        ConditionTwin (cs ++ cs') (ds ++ ds') (connective c c') (connective d d'))
    (empty : Bool) {parts parts' : List Condition}
    (hparts : Aligned ConditionTwin cs ds parts parts') :
    ConditionTwin cs ds (chained connective empty parts)
      (chained connective empty parts') := by
  cases hparts with
  | nil =>
      exact ConditionTwin.refl _
  | cons hfirst hrest =>
      exact ConditionTwin.foldl hconnective hrest hfirst

end

/-!
# Predicates
-/

/-- Lists of as many strings, or none on both sides. -/
def SameLength (values values' : Option (List String)) : Prop :=
  values.map List.length = values'.map List.length

theorem sameLength_of_blank {vs ws : List String}
    (h : (vs.map fun _ => "") = ws.map fun _ => "") : vs.length = ws.length := by
  simpa using congrArg List.length h

private theorem aligned_valueTests (operand : Operand) {values values' : Option (List String)}
    (h : SameLength values values') :
    Aligned (Aligned PieceTwin) ((values.getD []).map .value) ((values'.getD []).map .value)
      ((valueTests operand values).map Test.operand)
      ((valueTests operand values').map Test.operand) := by
  cases values with
  | none =>
      cases values' with
      | none =>
          exact .nil
      | some ws =>
          cases h
  | some vs =>
      cases values' with
      | none =>
          cases h
      | some ws =>
          exact .single (aligned_oneOf operand (Option.some.inj h))

private theorem aligned_related {relation relation' : Relation}
    (hrelation : relation.blank = relation'.blank) {values values' : Option (List String)}
    (h : SameLength values values') :
    Aligned PieceTwin (relation.carried ++ (values.getD []).map .value)
      (relation'.carried ++ (values'.getD []).map .value)
      (relatedLookup relation values).pieces (relatedLookup relation' values').pieces := by
  have howned := fun table key => aligned_same (ownedBy table key).operand
  cases relation with
  | actionPage =>
      cases relation' with
      | actionPage =>
          exact aligned_lookup (relatedLookup .actionPage none)
            ((aligned_valueTests _ h).cons (howned _ _))
      | _ =>
          cases hrelation
  | actionPageTag =>
      cases relation' with
      | actionPageTag =>
          exact aligned_lookup (relatedLookup .actionPageTag none)
            ((aligned_valueTests _ h).cons (howned _ _))
      | _ =>
          cases hrelation
  | phone =>
      cases relation' with
      | phone =>
          exact aligned_lookup (relatedLookup .phone none)
            ((aligned_valueTests _ h).cons (howned _ _))
      | _ =>
          cases hrelation
  | userField name =>
      cases relation' with
      | userField name' =>
          have hvalues := aligned_valueTests (.field ⟨"core_userfield", "value"⟩) h
          have hname := aligned_equals (.field ⟨"core_userfield", "name"⟩) name name'
          have htests := (hvalues.cons hname).cons (howned "core_userfield" "parent_id")
          exact aligned_lookup (relatedLookup (.userField name) none) htests
      | _ =>
          cases hrelation

mutual

theorem condition_twin {p q : Predicate} (h : p.blank = q.blank) :
    ConditionTwin p.carried q.carried (condition p) (condition q) := by
  cases p with
  | columnIn column vs =>
      cases q with
      | columnIn column' ws =>
          rcases Predicate.columnIn.inj h with ⟨rfl, hvalues⟩
          exact ⟨rfl, aligned_oneOf _ (sameLength_of_blank hvalues)⟩
      | _ =>
          cases h
  | columnIs column v =>
      cases q with
      | columnIs column' w =>
          rcases Predicate.columnIs.inj h with ⟨rfl, _⟩
          exact ⟨rfl, aligned_equals _ v w⟩
      | _ =>
          cases h
  | related relation values =>
      cases q with
      | related relation' values' =>
          rcases Predicate.related.inj h with ⟨hrelation, hvalues⟩
          have hlength : SameLength values values' := by
            simpa [SameLength, Function.comp_def] using
              congrArg (Option.map List.length) hvalues
          exact ConditionTwin.exists (aligned_related hrelation hlength)
      | _ =>
          cases h
  | like target pattern =>
      cases q with
      | like target' pattern' =>
          rcases Predicate.like.inj h with ⟨rfl, _⟩
          have htext := aligned_text (.pattern pattern) (.pattern pattern')
          exact ⟨rfl, (htext.before [.code " LIKE "]).before _⟩
      | _ =>
          cases h
  | all parts =>
      cases q with
      | all parts' =>
          have hparts := conditions_twin (Predicate.all.inj h)
          exact ConditionTwin.chained ConditionTwin.and true hparts
      | _ =>
          cases h
  | any parts =>
      cases q with
      | any parts' =>
          have hparts := conditions_twin (Predicate.any.inj h)
          exact ConditionTwin.chained ConditionTwin.or false hparts
      | _ =>
          cases h
  | not inner =>
      cases q with
      | not inner' =>
          exact (condition_twin (Predicate.not.inj h)).not
      | _ =>
          cases h
  | _ =>
      cases q <;> cases h
      all_goals exact ConditionTwin.refl _

theorem conditions_twin {ps qs : List Predicate}
    (h : Predicate.blanks ps = Predicate.blanks qs) :
    Aligned ConditionTwin (Predicate.carriedAll ps) (Predicate.carriedAll qs)
      (conditions ps) (conditions qs) := by
  cases ps with
  | nil =>
      cases qs with
      | nil =>
          exact .nil
      | cons q qs =>
          cases h
  | cons p ps =>
      cases qs with
      | nil =>
          cases h
      | cons q qs =>
          have hcons := List.cons.inj h
          exact (conditions_twin hcons.2).cons (condition_twin hcons.1)

end

/-!
# Plans
-/

private theorem aligned_fieldLookup (name name' : String) :
    Aligned PieceTwin [.value name] [.value name'] (fieldLookup name).pieces
      (fieldLookup name').pieces := by
  have hname := aligned_equals (.field ⟨"core_userfield", "name"⟩) name name'
  have howned := aligned_same (ownedBy "core_userfield" "parent_id").operand
  have htests := (Aligned.single (R := Aligned PieceTwin) hname).cons howned
  exact aligned_lookup (fieldLookup name) htests

private theorem aligned_output {column column' : OutputColumn} (h : column.blank = column'.blank) :
    Aligned PieceTwin column.carried column'.carried (outputPieces column)
      (outputPieces column') := by
  cases column with
  | userField name =>
      cases column' with
      | userField name' =>
          have halias : Aligned PieceTwin [.value name] [.value name'] [.name name] [.name name'] :=
            .single (.name (.value name) (.value name'))
          exact (aligned_fieldLookup name name').parenthesized.around [.code " AS "] halias
      | _ =>
          cases h
  | _ =>
      cases column' <;> cases h
      all_goals exact aligned_same _

private theorem aligned_columns {columns columns' : List OutputColumn}
    (h : columns.map OutputColumn.blank = columns'.map OutputColumn.blank) :
    Aligned (Aligned PieceTwin) (columns.flatMap OutputColumn.carried)
      (columns'.flatMap OutputColumn.carried) (columns.map outputPieces)
      (columns'.map outputPieces) := by
  induction columns generalizing columns' with
  | nil =>
      rw [List.map_eq_nil_iff.mp h.symm]
      exact .nil
  | cons column columns ih =>
      cases columns' with
      | nil =>
          cases h
      | cons column' columns' =>
          have hcons := List.cons.inj h
          exact (ih hcons.2).cons (aligned_output hcons.1)

theorem aligned_head {p q : Plan} (h : p.blank = q.blank) :
    Aligned PieceTwin (p.columns.flatMap OutputColumn.carried)
      (q.columns.flatMap OutputColumn.carried) (headPieces p) (headPieces q) := by
  have hcolumns := aligned_columns (congrArg Plan.columns h)
  have hdistinct : p.isDistinct = q.isDistinct := (Plan.mk.inj h).2.2
  unfold headPieces
  rw [hdistinct]
  exact ((hcolumns.joined ", ").before [_]).after _

theorem aligned_selection {p q : Predicate} (h : p.blank = q.blank) (ids : IdSet) :
    Aligned PieceTwin p.carried q.carried (selectionPieces p ids) (selectionPieces q ids) := by
  have htwin := condition_twin h
  unfold selectionPieces
  split
  · exact htwin.enclosed .conjunction
  · exact htwin.pieces

/-- The statements of plans of the same shape have the same tokens, except that a token
stands for each string of the one plan where a token stands for that of the other. -/
theorem lex_render_aligned {p q : Plan} (h : p.blank = q.blank) (ids : IdSet) :
    Aligned TokenTwin p.carried q.carried (lex (render p ids).toList)
      (lex (render q ids).toList) := by
  have hhead := (aligned_head h).tokens
  have hselection := (aligned_selection (congrArg Plan.selection h) ids).tokens
  have htail := Aligned.refl TokenTwin.same (lex (chars (tailPieces ids)))
  have hrest := hselection.append htail
  rw [List.append_nil, List.append_nil] at hrest
  rw [lex_render, lex_render]
  exact hhead.append hrest

def harmlessPlan : Plan where
  selection :=
    .all [.columnIn .city ["Bonn", "Köln"], .not (.related (.userField "vip") (some ["yes"])),
      .like .email "%a%"]
  columns := [.id, .userField "shirt"]
  isDistinct := false

/-- A plan of the same shape whose strings try to end the texts that they stand in. -/
def hostilePlan : Plan where
  selection :=
    .all [.columnIn .city ["') OR 1 = 1 --", "\\'; DROP TABLE core_user; --"],
      .not (.related (.userField "' OR '' = '") (some ["\\"])), .like .email "%'%\\"]
  columns := [.id, .userField "x\" FROM core_user; --"]
  isDistinct := false

theorem lex_render_hostile :
    harmlessPlan.blank = hostilePlan.blank ∧
      Aligned TokenTwin harmlessPlan.carried hostilePlan.carried
        (lex (render harmlessPlan (.placeholder "\x7busers\x7d")).toList)
        (lex (render hostilePlan (.placeholder "\x7busers\x7d")).toList) := by
  have hshape : harmlessPlan.blank = hostilePlan.blank := rfl
  exact ⟨hshape, lex_render_aligned hshape _⟩

end Statement
end Audience
