import Audience.Compiler
import Audience.Proofs.ConditionReading
import Audience.Proofs.Evaluation
import Audience.Proofs.SearchPatterns
import Audience.Proofs.StatementTokens

/-!
# Searches of a database

## Searches and how they are read

A search compares a text that is made from columns with a pattern.  It is the only condition
that puts texts together or changes their case, so it has a reader of its own, which leaves
operands to the reader of expressions.
-/

namespace Audience
namespace Sql

inductive TextExpr where
  | plain (e : Expr)
  | lower (inner : TextExpr)
  | joined (parts : List Expr)
  deriving DecidableEq

structure Search where
  text : TextExpr
  pattern : String
  deriving DecidableEq

namespace Reader

open Statement Lexer

def operands? : Nat -> List Token -> Option (List Expr × List Token)
  | 0, _ => none
  | fuel + 1, tokens => do
      let (first, rest) ← operand? fuel tokens
      match expect comma rest with
      | some rest => do
          let (others, rest) ← operands? fuel rest
          return (first :: others, rest)
      | none => return ([first], ← expect closing rest)

def plain? (fuel : Nat) (tokens : List Token) : Option (TextExpr × List Token) :=
  (operand? fuel tokens).map fun (e, rest) => (.plain e, rest)

def textExpr? : Nat -> List Token -> Option (TextExpr × List Token)
  | 0, _ => none
  | fuel + 1, .word letters :: .sign ['('] :: rest =>
      if letters = "LOWER".toList then do
        let (inner, rest) ← textExpr? fuel rest
        return (.lower inner, ← expect closing rest)
      else if letters = "CONCAT".toList then do
        let (parts, rest) ← operands? fuel rest
        return (.joined parts, rest)
      else plain? fuel (.word letters :: .sign ['('] :: rest)
  | fuel + 1, tokens => plain? fuel tokens

def search? (s : List Char) : Option Search := do
  let (text, rest) ← textExpr? (3 * (lex s).length + 3) (lex s)
  let rest ← expect (keyword "LIKE") rest
  match constant? rest with
  | some (.text pattern, []) => return ⟨text, pattern⟩
  | _ => none

end Reader

/-!
## What a search finds
-/

/-- The text of a value where texts are put together; a missing value adds nothing. -/
def Value.shown (v : Value) : String :=
  match v.asText with
  | .text s => s
  | _ => ""

/-- A text with its ASCII letters in lower case; the others depend on the locale and stay. -/
def Value.lower : Value -> Value
  | .text s => .text (String.ofList (s.toList.map Char.toLower))
  | _ => .null

def Database.textOf (db : Database) (scope : Scope) : TextExpr -> Value
  | .plain e => db.eval e scope []
  | .lower inner => (db.textOf scope inner).lower
  | .joined parts => .text (String.join (parts.map fun e => (db.eval e scope []).shown))

def Database.Finds (db : Database) (search : Search) (scope : Scope) : Prop :=
  exists s, db.textOf scope search.text = .text s ∧ Matches search.pattern.toList s.toList

/-!
## Written searches are read as they are meant
-/

open Statement

def searchExpr : SearchText -> TextExpr
  | .fullName =>
      .joined [(userField "first_name").expr, .constant (.text " "), (userField "last_name").expr]
  | .email => .plain (userField "email").expr

namespace Reader

def ReadsText (ts : List Token) (text : TextExpr) : Prop :=
  forall fuel rest, 3 * ts.length + 1 <= fuel ->
    textExpr? (fuel + 1) (ts ++ rest) = some (text, rest)

theorem readsText_lower {ts : List Token} {text : TextExpr} (h : ReadsText ts text) :
    ReadsText (keyword "LOWER" :: opening :: (ts ++ [closing])) (.lower text) := by
  intro fuel rest hfuel
  simp only [List.length_cons, List.length_append, List.length_nil] at hfuel
  rcases fuel with _ | fuel
  · omega
  have hinner := h fuel (closing :: rest) (by omega)
  simp [textExpr?, keyword, opening, hinner]

theorem readsText_field (f : Field) : ReadsText (tokens f.pieces) (.plain f.expr) := by
  intro fuel rest hfuel
  rcases fuel with _ | fuel
  · omega
  have hread := reads_field f fuel rest (by omega)
  rw [tokens_field] at hread ⊢
  simp only [List.cons_append, List.nil_append] at hread ⊢
  simp [textExpr?, plain?, hread]

private theorem operands_last {ts : List Token} {e : Expr} (h : ReadsOperand ts e) {fuel : Nat}
    (hfuel : 3 * ts.length + 1 <= fuel) (rest : List Token) :
    operands? (fuel + 1) (ts ++ closing :: rest) = some ([e], rest) := by
  rcases fuel with _ | fuel
  · omega
  have hread := h fuel (closing :: rest) (by omega)
  have hcomma : expect comma (closing :: rest) = none := rfl
  simp [operands?, hread, hcomma]

theorem operands_cons {ts us : List Token} {e : Expr} {es : List Expr} (h : ReadsOperand ts e)
    {fuel : Nat} (hfuel : 3 * ts.length + 1 <= fuel) {rest : List Token}
    (hrest : operands? fuel (us ++ closing :: rest) = some (es, rest)) :
    operands? (fuel + 1) (ts ++ comma :: us ++ closing :: rest) = some (e :: es, rest) := by
  cases fuel with
  | zero =>
      omega
  | succ fuel =>
      have hread := h fuel (comma :: (us ++ closing :: rest)) (by omega)
      rw [List.append_assoc, List.cons_append, operands?, hread]
      simp only [Option.bind_eq_bind, Option.bind_some, expect_cons, hrest]
      rfl

private theorem readsText_names (f g : Field) :
    ReadsText (tokens (Operand.spaced f g).pieces)
      (.joined [f.expr, .constant (.text " "), g.expr]) := by
  have hspace : ReadsOperand [.text [' ']] (.constant (.text " ")) :=
    reads_constant fun rest => rfl
  have htokens : tokens (Operand.spaced f g).pieces =
      keyword "CONCAT" :: opening ::
        (tokens f.pieces ++ comma :: ([.text [' ']] ++ comma :: tokens g.pieces) ++
          [closing]) := by
    have hconcat : (Piece.code "CONCAT(").tokens = [keyword "CONCAT", opening] := rfl
    have hspace : (Piece.code ", ' ', ").tokens = [comma, .text [' '], comma] := rfl
    simp [Operand.pieces, hconcat, hspace]
  intro fuel rest hfuel
  rw [htokens] at hfuel ⊢
  simp only [List.length_cons, List.length_append, List.length_nil] at hfuel
  rcases fuel with _ | _ | _ | fuel
  · omega
  · omega
  · omega
  have hlast : operands? (fuel + 1) (tokens g.pieces ++ closing :: rest) =
      some ([g.expr], rest) :=
    operands_last (reads_field g) (by omega) rest
  have hrest := operands_cons hspace (by simp; omega) hlast
  have hall := operands_cons (reads_field f) (by omega) hrest
  simp only [List.append_assoc, List.cons_append, List.nil_append] at hall ⊢
  simp [textExpr?, keyword, opening, hall]

private theorem readsText_search (target : SearchText) :
    ReadsText (tokens (Operand.lower (searchOperand target)).pieces)
      (.lower (searchExpr target)) := by
  have hinner : ReadsText (tokens (searchOperand target).pieces) (searchExpr target) := by
    cases target with
    | fullName =>
        exact readsText_names (userField "first_name") (userField "last_name")
    | email =>
        exact readsText_field (userField "email")
  rw [Operand.pieces, tokens_between]
  exact readsText_lower hinner

theorem read_search (target : SearchText) {pattern : String}
    (h : Storable (Text.lowered pattern)) :
    search? (text (condition (.like target pattern)).pieces).toList =
      some ⟨.lower (searchExpr target), Text.lowered pattern⟩ := by
  have hlex := (separable_predicate (.like target pattern)).lex_eq
  have htokens : tokens (condition (.like target pattern)).pieces =
      tokens (Operand.lower (searchOperand target)).pieces ++
        keyword "LIKE" :: [textToken (Text.lowered pattern).toList] := by
    have hlike : (Piece.code " LIKE ").tokens = [keyword "LIKE"] := rfl
    simp [condition, Condition.pieces, Test.pieces, hlike]
  have hread := readsText_search target
    (3 * (tokens (condition (.like target pattern)).pieces).length + 2)
    (keyword "LIKE" :: [textToken (Text.lowered pattern).toList])
    (by rw [htokens, List.length_append]; omega)
  rw [← htokens] at hread
  rw [toList_text, search?, hlex, hread]
  simp [expect_cons, constant_text h []]

end Reader

/-!
## Searches and users
-/

structure ShowsNames (row : Row) (user : User) : Prop where
  firstName : row "first_name" = .text user.firstName
  lastName : row "last_name" = .text user.lastName
  email : row "email" = .text user.email

variable {db : Database} {row : Row} {user : User}

private theorem textOf_search (h : ShowsNames row user) (target : SearchText) :
    db.textOf [(userTable, row)] (.lower (searchExpr target)) =
      .text (String.ofList ((user.searchText target).toList.map Char.toLower)) := by
  have hcolumn : forall name, db.eval (userField name).expr [(userTable, row)] [] = row name := by
    intro name
    rfl
  have htext : db.textOf [(userTable, row)] (searchExpr target) =
      .text (user.searchText target) := by
    cases target with
    | fullName =>
        have hspace : db.eval (.constant (.text " ")) [(userTable, row)] [] = .text " " := rfl
        simp only [searchExpr, Database.textOf, List.map_cons, List.map_nil, hcolumn,
          hspace, h.firstName, h.lastName]
        simp [Value.shown, Value.asText, String.join, User.searchText, User.fullName]
    | email =>
        rw [searchExpr, Database.textOf, hcolumn, h.email]
        rfl
  rw [Database.textOf, htext]
  rfl

theorem finds_iff (h : ShowsNames row user) (target : SearchText) (pattern : String) :
    db.Finds ⟨.lower (searchExpr target), pattern⟩ [(userTable, row)] <->
      Matches pattern.toList ((user.searchText target).toList.map Char.toLower) := by
  rw [Database.Finds, textOf_search h target]
  constructor
  · intro h
    rcases h with ⟨s, hs, hmatches⟩
    cases hs
    rwa [String.toList_ofList] at hmatches
  · intro hmatches
    exact ⟨_, rfl, by rwa [String.toList_ofList]⟩

theorem storable_lowered {pattern : String} (hascii : Text.IsAscii pattern.toList)
    (h : Storable pattern) : Storable (Text.lowered pattern) := by
  intro hmem
  rw [Text.lowered_ascii hascii] at hmem
  rcases List.mem_map.mp hmem with ⟨c, hc, hlower⟩
  rw [(Text.toLower_eq_zero (hascii c hc)).mp hlower] at hc
  exact h hc

def nameRow (user : User) : Row := fun name =>
  if name = "first_name" then .text user.firstName
  else if name = "last_name" then .text user.lastName
  else if name = "email" then .text user.email
  else .null

theorem showsNames_nameRow (user : User) : ShowsNames (nameRow user) user where
  firstName := rfl
  lastName := rfl
  email := rfl

def named (name : String) : User :=
  { User.unknown 1 "subscribed" with lastName := name, email := name }

private theorem searchText_named (target : SearchText) {pattern : List Char}
    (hreach : target = .email ∨ pattern.head? = some '%') :
    exists front, Text.IsAscii front ∧ '\\' ∉ front ∧
      (front = [] ∨ pattern.head? = some '%') ∧
        forall rest, ((named (String.ofList rest)).searchText target).toList = front ++ rest := by
  cases target with
  | fullName =>
      refine ⟨[' '], by decide, by decide, Or.inr ?_, ?_⟩
      · simpa using hreach
      · intro rest
        simp [User.searchText, User.fullName, named, User.unknown]
  | email =>
      refine ⟨[], by decide, by decide, Or.inl rfl, ?_⟩
      intro rest
      simp [User.searchText, named]

/-- A written search is read, and if its pattern has no backslash, then it finds exactly the
users that the predicate holds of.  With a backslash there is a user on whom they differ, as
long as the pattern of a full name begins like that of every search for names. -/
theorem written_search_finds (target : SearchText) {pattern : String}
    (hascii : Text.IsAscii pattern.toList) (hstorable : Storable pattern) (db : Database) :
    exists search,
      Reader.search? (text (condition (.like target pattern)).pieces).toList = some search ∧
        ('\\' ∉ pattern.toList -> forall (user : User) (row : Row), ShowsNames row user ->
          Text.IsAscii (user.searchText target).toList ->
            (db.Finds search [(userTable, row)] <->
              (Predicate.like target pattern).holds user = .ok true)) ∧
        ('\\' ∈ pattern.toList ->
          target = .email ∨ pattern.toList.head? = some '%' ->
            exists (user : User) (row : Row), ShowsNames row user ∧
              Text.IsAscii (user.searchText target).toList ∧
                ¬ (db.Finds search [(userTable, row)] <->
                  (Predicate.like target pattern).holds user = .ok true)) := by
  have hholds : forall user : User, (Predicate.like target pattern).holds user = .ok true <->
      Text.like pattern.toList (user.searchText target).toList = true := by
    intro user
    rw [Predicate.holds, Except.ok.injEq]
  refine ⟨_, Reader.read_search target (storable_lowered hascii hstorable), ?_, ?_⟩
  · intro hplain user row hrow htext
    rw [finds_iff hrow, hholds, Text.lowered_ascii hascii]
    exact matches_lower_iff hascii htext hplain
  · intro hslash hreach
    rcases searchText_named target hreach with ⟨front, hfront, hclean, hbegins, hnamed⟩
    rcases backslash_parts hascii hfront hclean hbegins hslash with ⟨rest, hrest, hdiffers⟩
    have hrow := showsNames_nameRow (named (String.ofList rest))
    refine ⟨_, _, hrow, ?_, ?_⟩
    · rw [hnamed]
      exact List.forall_mem_append.mpr ⟨hfront, hrest⟩
    · rwa [finds_iff hrow, hholds, Text.lowered_ascii hascii, hnamed]

def obrien : User :=
  { User.unknown 7 "subscribed" with firstName := "JANE", lastName := "O'Brien" }

def residents : Database where
  rows _ := [nameRow obrien]

theorem written_search_finds_obrien :
    Text.IsAscii (Compiler.namePattern "jan_ o'B").toList ∧
      Storable (Compiler.namePattern "jan_ o'B") ∧
        exists search,
          Reader.search? (text (condition
            (.like .fullName (Compiler.namePattern "jan_ o'B"))).pieces).toList = some search ∧
              residents.Finds search [(userTable, nameRow obrien)] := by
  have hascii : Text.IsAscii (Compiler.namePattern "jan_ o'B").toList := by decide
  have hstorable : Storable (Compiler.namePattern "jan_ o'B") := by decide
  rcases written_search_finds .fullName hascii hstorable residents with
    ⟨search, hread, hfinds, _⟩
  refine ⟨hascii, hstorable, search, hread, ?_⟩
  rw [hfinds (by decide) obrien _ (showsNames_nameRow obrien) (by decide)]
  rfl

def percent : User :=
  { User.unknown 8 "subscribed" with email := "jane%" }

/-- The search for an email that ends in a backslash is written with a percent sign that
stands for itself, and so it finds what the predicate does not. -/
theorem backslash_search_differs :
    (exists line, Compiler.textSearch? ⟨[("user_email", "jane\\")]⟩ =
        some ⟨.like .email "%jane\\%", line⟩) ∧
      (Predicate.like .email "%jane\\%").holds percent = .ok false ∧
        exists search,
          Reader.search? (text (condition (.like .email "%jane\\%")).pieces).toList =
            some search ∧
          ShowsNames (nameRow percent) percent ∧
            residents.Finds search [(userTable, nameRow percent)] := by
  have hdescribes : Text.Describes [.anything, .exactly 'j', .exactly 'a', .exactly 'n',
      .exactly 'e', .exactly '%'] "jane%".toList :=
    describes_sample _
  refine ⟨⟨_, rfl⟩, rfl, _, Reader.read_search .email (by decide),
    showsNames_nameRow percent, ?_⟩
  rw [finds_iff (showsNames_nameRow percent)]
  exact ⟨_, rfl, hdescribes⟩

end Sql
end Audience
