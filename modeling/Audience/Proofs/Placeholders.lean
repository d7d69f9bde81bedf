import Audience.Proofs.Braces
import Audience.Proofs.Templates

/-!
# The token in a template

## Counting in templates

A template is written with a token for the ids.  The token occurs once in the restriction of
the ids, and it occurs elsewhere exactly where a string of the plan holds it.
-/

namespace Audience
namespace Statement

/-- How often a token occurs in the strings of a plan, as they are written. -/
def tokensCarried (token : List Char) : List Carried -> Nat
  | [] => 0
  | c :: rest => Text.occurrences token c.written.toList + tokensCarried token rest

@[simp] theorem tokensCarried_append (token : List Char) (cs ds : List Carried) :
    tokensCarried token (cs ++ ds) = tokensCarried token cs + tokensCarried token ds := by
  induction cs with
  | nil =>
      exact (Nat.zero_add _).symm
  | cons c cs ih =>
      rw [List.cons_append, tokensCarried, tokensCarried, ih, Nat.add_assoc]

/-- Whatever a statement holds beside the strings of its plan is free of braces, so the token
occurs in the strings alone. -/
private theorem occurrences_aligned {mark : List Char} (hmark : IsToken mark)
    {cs ds : List Carried} {ps qs : List Piece} (h : Aligned PieceTwin cs ds ps qs)
    (hfree : BraceFree qs) (rest : List Char) :
    Text.occurrences mark (chars ps ++ rest) =
      tokensCarried mark cs + Text.occurrences mark rest := by
  induction h with
  | nil =>
      exact (Nat.zero_add _).symm
  | cons hfirst hrest ih =>
      rw [braceFree_cons] at hfree
      have hothers := ih hfree.right
      rw [chars_cons, List.append_assoc, tokensCarried_append, Nat.add_assoc]
      cases hfirst with
      | same piece =>
          rcases hmark.begins with ⟨stem, rfl⟩
          rw [Text.occurrences_append_right hfree.left, hothers, tokensCarried, Nat.zero_add]
      | text c d =>
          rw [Piece.chars, occurrences_quotedText hmark, hothers]
          rfl
      | name c d =>
          rw [Piece.chars, occurrences_quotedName hmark, hothers]
          rfl

theorem occurrences_before {mark : List Char} (hmark : IsToken mark) (plan : Plan)
    (rest : List Char) :
    Text.occurrences mark (chars (beforeRestriction plan) ++ rest) =
      tokensCarried mark plan.carried + Text.occurrences mark rest := by
  have hhead := aligned_head plan.blank_blank.symm
  have hselection :=
    aligned_selection (congrArg Plan.selection plan.blank_blank.symm) (.placeholder "")
  have hbefore := (hhead.append hselection).after [.code " AND ", .code "("]
  exact occurrences_aligned hmark hbefore (braceFree_before plan) rest

theorem toList_restrictionText (list : String) :
    (restrictionText list).toList =
      "\"core_user\".\"id\" IN ".toList ++ '(' :: (list.toList ++ [')']) := by
  rw [restrictionText, toList_text]
  rfl

theorem toList_template (plan : Plan) (token : String) :
    (render plan (.placeholder token)).toList =
      chars (beforeRestriction plan) ++ ("\"core_user\".\"id\" IN ".toList ++
        '(' :: (token.toList ++ ')' :: chars afterRestriction)) := by
  have hrender : render plan (.placeholder token) =
      text (beforeRestriction plan) ++ restrictionText token ++ text afterRestriction :=
    render_restricted plan rfl
  simp [hrender, toList_restrictionText]

theorem IsToken.occurrences_eq_zero {mark s : List Char} (h : IsToken mark)
    (hs : openBrace ∉ s) : Text.occurrences mark s = 0 := by
  rcases h.begins with ⟨stem, rfl⟩
  rw [← List.append_nil s, Text.occurrences_append_right hs, Text.occurrences_nil]

theorem occurrences_template {token : String} (htoken : IsToken token.toList) (plan : Plan) :
    Text.occurrences token.toList (render plan (.placeholder token)).toList =
      tokensCarried token.toList plan.carried + 1 := by
  have hopen : '(' ∉ token.toList := htoken.not_mem rfl
  have hafter : openBrace ∉ ')' :: chars afterRestriction := by
    decide
  rw [toList_template, occurrences_before htoken, Text.occurrences_seam htoken.ne_nil hopen,
    htoken.occurrences_eq_zero (by decide), Text.occurrences_mark htoken.ne_nil,
    htoken.occurrences_eq_zero hafter]

/-!
## Replacing the token
-/

private theorem not_infix_of_free {mark s : List Char} (h : IsToken mark) (hs : openBrace ∉ s) :
    ¬ mark <:+: s := by
  rw [← Text.occurrences_pos_iff h.ne_nil, h.occurrences_eq_zero hs]
  exact Nat.lt_irrefl 0

theorem tokensCarried_eq_zero {mark : List Char} (h : IsToken mark) (carried : List Carried) :
    tokensCarried mark carried = 0 <->
      forall c, c ∈ carried -> ¬ mark <:+: c.written.toList := by
  induction carried with
  | nil =>
      exact iff_of_true rfl (by simp)
  | cons c carried ih =>
      rw [tokensCarried, Nat.add_eq_zero_iff, ih, List.forall_mem_cons,
        ← Text.occurrences_pos_iff h.ne_nil, Nat.pos_iff_ne_zero, not_not]

private theorem replaceAll_template {token : String} (htoken : IsToken token.toList) {plan : Plan}
    (h : tokensCarried token.toList plan.carried = 0) (list : String) :
    String.ofList (Text.replaceAll token.toList list.toList
        (render plan (.placeholder token)).toList) =
      render plan (.placeholder list) := by
  have hfront : ¬ token.toList <:+:
      chars (beforeRestriction plan) ++ "\"core_user\".\"id\" IN ".toList := by
    rw [← Text.occurrences_pos_iff htoken.ne_nil, occurrences_before htoken, h,
      htoken.occurrences_eq_zero (by decide)]
    exact Nat.lt_irrefl 0
  have hopen : '(' ∉ token.toList := htoken.not_mem rfl
  apply String.toList_injective
  rw [String.toList_ofList, toList_template, toList_template, ← List.append_assoc,
    Text.replaceAll_seam htoken.ne_nil hopen hfront (not_infix_of_free htoken (by decide)),
    List.append_assoc]

end Statement

namespace Compiler

open Statement

/--
A template holds the token once in the restriction of its ids and once more wherever a string
of the plan holds it: a value, a pattern in lower case, or the name of a custom field.  If no
string does, then putting a list of ids in place of the token touches the restriction alone.
-/
theorem template_repeats_token_of_strings {compiler : Compiler} {form : Form}
    {request : String} {log : List String} {query : CompiledQuery}
    (htoken : IsToken compiler.settings.placeholder.toList)
    (hcompile : (compiler.direct.compileForm form request log).1 = .ok query) :
    exists assembled, compiler.assemble form = .ok assembled ∧
      query.template = text (beforeRestriction assembled.plan) ++
        restrictionText compiler.settings.placeholder ++ text afterRestriction ∧
      Text.occurrences compiler.settings.placeholder.toList query.template.toList =
        tokensCarried compiler.settings.placeholder.toList assembled.plan.carried + 1 ∧
      (Text.occurrences compiler.settings.placeholder.toList query.template.toList = 1 <->
        forall c, c ∈ assembled.plan.carried ->
          ¬ compiler.settings.placeholder.toList <:+: c.written.toList) ∧
      (Text.occurrences compiler.settings.placeholder.toList query.template.toList = 1 ->
        forall list : String,
          String.ofList (Text.replaceAll compiler.settings.placeholder.toList list.toList
            query.template.toList) =
          text (beforeRestriction assembled.plan) ++ restrictionText list ++
            text afterRestriction) := by
  rw [compileForm_direct] at hcompile
  cases hassemble : compiler.assemble form with
  | error cause =>
      rw [hassemble] at hcompile
      cases hcompile
  | ok assembled =>
      rw [hassemble] at hcompile
      cases hcompile
      have hcount := occurrences_template htoken assembled.plan
      refine ⟨assembled, rfl, render_restricted assembled.plan rfl, hcount, ?_, ?_⟩
      · rw [hcount, Nat.add_eq_right]
        exact tokensCarried_eq_zero htoken assembled.plan.carried
      · intro honce list
        rw [hcount, Nat.add_eq_right] at honce
        have hrestricted : render assembled.plan (.placeholder list) =
            text (beforeRestriction assembled.plan) ++ restrictionText list ++
              text afterRestriction :=
          render_restricted assembled.plan rfl
        rw [← hrestricted]
        exact replaceAll_template htoken honce list

theorem isToken_default : IsToken ({} : Settings).placeholder.toList where
  begins := ⟨_, rfl⟩
  plain := by
    have hplain : (({} : Settings).placeholder.toList.all fun c => !isMarking c) = true := rfl
    intro c hc
    simpa using List.all_eq_true.mp hplain c hc

def residents (city : String) : Form :=
  ⟨[("include:1", "city"), ("1_city", city)]⟩

def residentStrings (city : String) : List Carried :=
  [.value "campus", .value "campus", .value "skills", .value "skills",
    .value "engagement_level", .value "engagement_level", .value "affiliation",
    .value "affiliation", .value city, .value "subscribed"]

private theorem tokensCarried_residentStrings {token : String} (h : IsToken token.toList) :
    tokensCarried token.toList (residentStrings token) = 1 := by
  have hplain : forall s : String, openBrace ∉ s.toList ->
      Text.occurrences token.toList s.toList = 0 := by
    intro s hs
    exact h.occurrences_eq_zero hs
  have hself : Text.occurrences token.toList token.toList = 1 := by
    have hmark := Text.occurrences_mark h.ne_nil []
    rwa [List.append_nil, Text.occurrences_nil] at hmark
  simp only [tokensCarried, residentStrings, Carried.written, hself, hplain "campus" (by decide),
    hplain "skills" (by decide), hplain "engagement_level" (by decide),
    hplain "affiliation" (by decide), hplain "subscribed" (by decide), Nat.zero_add,
    Nat.add_zero]

theorem template_repeats_token_of_Bonn :
    exists query, ((standalone {}).direct.compileForm (residents "Bonn") "" []).1 = .ok query ∧
      IsToken (standalone {}).settings.placeholder.toList ∧
      Text.occurrences (standalone {}).settings.placeholder.toList query.template.toList = 1 := by
  have hrun : ((standalone {}).assemble (residents "Bonn")).map
      (fun assembled => assembled.plan.carried) = .ok (residentStrings "Bonn") := by
    rfl
  have hcompile := compileForm_direct (standalone {}) (residents "Bonn") "" []
  cases hassemble : (standalone {}).assemble (residents "Bonn") with
  | error cause =>
      rw [hassemble] at hrun
      cases hrun
  | ok assembled =>
      rw [hassemble] at hrun hcompile
      have hcarried : assembled.plan.carried = residentStrings "Bonn" := Except.ok.inj hrun
      have htemplate := template_repeats_token_of_strings isToken_default hcompile
      rcases htemplate with ⟨found, hfound, _, _, honce, _⟩
      rw [hassemble] at hfound
      rw [← Except.ok.inj hfound, hcarried] at honce
      refine ⟨_, hcompile, isToken_default, honce.mpr ?_⟩
      decide

/-- A city may have the name of the token. -/
theorem template_holds_token_twice :
    exists query, ((standalone {}).direct.compileForm
        (residents "\x7b\x7b user_ids \x7d\x7d") "" []).1 = .ok query ∧
      Text.occurrences "\x7b\x7b user_ids \x7d\x7d".toList query.template.toList = 2 := by
  have hrun : ((standalone {}).assemble (residents "\x7b\x7b user_ids \x7d\x7d")).map
      (fun assembled => assembled.plan.carried) =
        .ok (residentStrings "\x7b\x7b user_ids \x7d\x7d") := by
    rfl
  have hcompile :=
    compileForm_direct (standalone {}) (residents "\x7b\x7b user_ids \x7d\x7d") "" []
  cases hassemble : (standalone {}).assemble (residents "\x7b\x7b user_ids \x7d\x7d") with
  | error cause =>
      rw [hassemble] at hrun
      cases hrun
  | ok assembled =>
      rw [hassemble] at hrun hcompile
      refine ⟨_, hcompile, ?_⟩
      have hcarried : assembled.plan.carried =
          residentStrings "\x7b\x7b user_ids \x7d\x7d" := Except.ok.inj hrun
      have hcount := occurrences_template isToken_default assembled.plan
      have hstrings := tokensCarried_residentStrings isToken_default
      rw [hcarried] at hcount
      exact hcount.trans (congrArg (· + 1) hstrings)

end Compiler
end Audience
