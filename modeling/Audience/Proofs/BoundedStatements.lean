import Audience.Proofs.Placeholders

/-!
# Templates filled with ids

## Places of a mark

A mark begins at a place of a text.  Places may overlap, and replacing goes from the left, so
a text with one place of the mark is a text in which nothing else can be replaced.
-/

namespace Audience
namespace Text

/-- At how many places of a text a mark begins, overlapping ones included. -/
def places (mark s : List Char) : Nat :=
  s.tails.countP mark.isPrefixOf

theorem places_cons (mark : List Char) (c : Char) (rest : List Char) :
    places mark (c :: rest) =
      places mark rest + if mark.isPrefixOf (c :: rest) then 1 else 0 := by
  unfold places
  rw [List.tails_cons, List.countP_cons]

theorem places_nil {mark : List Char} (hmark : mark ≠ []) : places mark [] = 0 := by
  cases mark with
  | nil =>
      exact absurd rfl hmark
  | cons m marks =>
      rfl

theorem places_of_nil (s : List Char) : places [] s = s.length + 1 := by
  induction s with
  | nil =>
      rfl
  | cons c rest ih =>
      rw [places_cons, ih, List.length_cons]
      rfl

theorem places_pos_iff (mark s : List Char) : 0 < places mark s <-> mark <:+: s := by
  simp only [places, List.countP_pos_iff, List.mem_tails, List.isPrefixOf_iff_prefix,
    List.infix_iff_prefix_suffix, and_comm]

theorem places_cons_of_prefix {mark : List Char} {c : Char} {rest : List Char}
    (h : mark <+: c :: rest) : places mark (c :: rest) = places mark rest + 1 := by
  rw [places_cons, if_pos (List.isPrefixOf_iff_prefix.mpr h)]

theorem places_cons_of_not_prefix {mark : List Char} {c : Char} {rest : List Char}
    (h : ¬ mark <+: c :: rest) : places mark (c :: rest) = places mark rest := by
  rw [places_cons, if_neg (fun hbegins => h (List.isPrefixOf_iff_prefix.mp hbegins)),
    Nat.add_zero]

theorem places_append_left (m : Char) (marks rest : List Char) :
    places (m :: marks) (m :: marks ++ rest) = places (m :: marks) (marks ++ rest) + 1 :=
  places_cons_of_prefix (List.prefix_append (m :: marks) rest)

private theorem around_of_places_eq_one {mark : List Char} (hmark : mark ≠ [])
    {before after : List Char} (h : places mark (before ++ (mark ++ after)) = 1) :
    around mark (before ++ (mark ++ after)) = [before, after] := by
  induction before with
  | nil =>
      have hafter : ¬ mark <:+: after := by
        intro hinfix
        cases mark with
        | nil =>
            exact hmark rfl
        | cons m marks =>
            have hlater : m :: marks <:+: marks ++ after :=
              hinfix.trans (List.suffix_append marks after).isInfix
            have hpos := (places_pos_iff _ _).mpr hlater
            rw [List.nil_append, places_append_left] at h
            omega
      rw [List.nil_append, around_append_left hmark, around_eq_singleton hmark hafter]
  | cons c before ih =>
      have hlater : mark <:+: before ++ (mark ++ after) :=
        ⟨before, after, List.append_assoc _ _ _⟩
      have hpos := (places_pos_iff _ _).mpr hlater
      have hbegins : ¬ mark <+: c :: (before ++ (mark ++ after)) := by
        intro hbegins
        rw [List.cons_append, places_cons_of_prefix hbegins] at h
        omega
      rw [List.cons_append, places_cons_of_not_prefix hbegins] at h
      rw [List.cons_append, around_cons hmark hbegins, ih h]
      rfl

theorem replaceAll_of_places_eq_one {mark : List Char} (hmark : mark ≠ [])
    {before after : List Char} (h : places mark (before ++ (mark ++ after)) = 1)
    (replacement : List Char) :
    replaceAll mark replacement (before ++ (mark ++ after)) =
      before ++ (replacement ++ after) := by
  unfold replaceAll
  rw [around_of_places_eq_one hmark h]
  simp [List.intercalate_cons_cons]

/-- No end of the mark is a beginning of it, except nothing and the mark itself. -/
def OverlapFree (mark : List Char) : Prop :=
  forall part, part ∈ mark.tails -> part <+: mark -> part = [] ∨ part = mark

instance (mark : List Char) : Decidable (OverlapFree mark) :=
  inferInstanceAs (Decidable (forall part, part ∈ mark.tails -> _))

theorem OverlapFree.places_append {mark part : List Char} (h : OverlapFree mark)
    (hpart : part <:+ mark) (hshort : part.length < mark.length) (rest : List Char) :
    places mark (part ++ rest) = places mark rest := by
  induction part with
  | nil =>
      rfl
  | cons c part ih =>
      have hbegins : ¬ mark <+: c :: (part ++ rest) := by
        intro hbegins
        have hprefix : c :: part <+: mark :=
          List.prefix_of_prefix_length_le (List.prefix_append (c :: part) rest) hbegins
            (Nat.le_of_lt hshort)
        rcases h (c :: part) ((List.mem_tails _ _).mpr hpart) hprefix with hnil | hwhole
        · exact List.cons_ne_nil c part hnil
        · rw [hwhole] at hshort
          exact Nat.lt_irrefl _ hshort
      rw [List.cons_append, places_cons_of_not_prefix hbegins]
      exact ih ((List.suffix_cons c part).trans hpart)
        (Nat.lt_of_succ_lt hshort)

private theorem OverlapFree.places_mark {mark : List Char} (h : OverlapFree mark)
    (hmark : mark ≠ []) (rest : List Char) :
    places mark (mark ++ rest) = places mark rest + 1 := by
  cases mark with
  | nil =>
      exact absurd rfl hmark
  | cons m marks =>
      rw [places_append_left,
        h.places_append (List.suffix_cons m marks) (Nat.lt_succ_self marks.length)]

/-- Of a mark that cannot overlap itself no place is passed over. -/
theorem OverlapFree.occurrences_eq_places {mark : List Char} (h : OverlapFree mark)
    (hmark : mark ≠ []) (s : List Char) : occurrences mark s = places mark s := by
  match s with
  | [] =>
      rw [occurrences_nil, places_nil hmark]
  | c :: rest =>
      rcases mark_cases mark c rest with htail | hbegins
      · rcases htail with ⟨tail, htail⟩
        have hshort := length_lt_of_append hmark htail
        rw [htail, occurrences_mark hmark, h.places_mark hmark,
          h.occurrences_eq_places hmark tail]
      · rw [occurrences_cons hmark hbegins, places_cons_of_not_prefix hbegins,
          h.occurrences_eq_places hmark rest]
termination_by s.length
decreasing_by
  · exact hshort
  · exact Nat.lt_succ_self rest.length

end Text

/-!
## Statements bounded by ids

A statement that is bounded by ids is its template with the ids in place of the token.  What
stands around them depends on the plan alone.
-/

namespace Statement

theorem restrictionText_eq (list : String) :
    restrictionText list = "\"core_user\".\"id\" IN (" ++ list ++ ")" := by
  apply String.toList_injective
  rw [toList_restrictionText, String.toList_append, String.toList_append]
  simp

theorem render_literal (plan : Plan) {ids : List Int} (h : ids ≠ []) :
    render plan (.literal ids) = render plan (.placeholder (idList ids)) := by
  cases ids with
  | nil =>
      exact absurd rfl h
  | cons id ids =>
      rw [render_restricted plan rfl, render_restricted plan rfl]

private theorem ne_nil_of_one_place {plan : Plan} {token : String}
    (h : Text.places token.toList (render plan (.placeholder token)).toList = 1) :
    token.toList ≠ [] := by
  intro hempty
  rw [hempty, Text.places_of_nil, Nat.add_eq_right, List.length_eq_zero_iff,
    toList_template] at h
  exact List.cons_ne_nil _ _ (List.append_eq_nil_iff.mp (List.append_eq_nil_iff.mp h).right).right

private theorem replaceAll_of_one_place {plan : Plan} {token : String}
    (h : Text.places token.toList (render plan (.placeholder token)).toList = 1)
    (list : String) :
    String.ofList (Text.replaceAll token.toList list.toList
        (render plan (.placeholder token)).toList) =
      render plan (.placeholder list) := by
  have htoken := ne_nil_of_one_place h
  have hsplit : forall list : String, (render plan (.placeholder list)).toList =
      (chars (beforeRestriction plan) ++ "\"core_user\".\"id\" IN (".toList) ++
        (list.toList ++ ')' :: chars afterRestriction) := by
    intro list
    rw [toList_template]
    simp
  apply String.toList_injective
  rw [hsplit] at h
  rw [String.toList_ofList, hsplit, hsplit, Text.replaceAll_of_places_eq_one htoken h]

/--
For every plan there are two texts such that a template is a restriction to the token between
them, and a statement bounded by ids is a restriction to the ids, in decimals and separated
by commas, between the same two texts.  So putting the ids in place of a token that the
template has at one place only gives the bounded statement.  A token that cannot overlap
itself has as many places as there are occurrences to replace.
-/
theorem filled_template_is_bounded (plan : Plan) :
    exists before after : String,
      (forall token, render plan (.placeholder token) =
        before ++ ("\"core_user\".\"id\" IN (" ++ token ++ ")") ++ after) ∧
      (forall ids : List Int, ids ≠ [] -> render plan (.literal ids) =
        before ++ ("\"core_user\".\"id\" IN (" ++ String.intercalate ", " (ids.map toString) ++
          ")") ++ after) ∧
      (forall token : String,
        Text.places token.toList (render plan (.placeholder token)).toList = 1 ->
          forall ids : List Int, ids ≠ [] ->
            String.ofList (Text.replaceAll token.toList
              (String.intercalate ", " (ids.map toString)).toList
              (render plan (.placeholder token)).toList) = render plan (.literal ids)) ∧
      (forall token : String, token ≠ "" -> Text.OverlapFree token.toList ->
        Text.occurrences token.toList (render plan (.placeholder token)).toList =
          Text.places token.toList (render plan (.placeholder token)).toList) := by
  have hrestricted : forall token, render plan (.placeholder token) =
      text (beforeRestriction plan) ++ ("\"core_user\".\"id\" IN (" ++ token ++ ")") ++
        text afterRestriction := by
    intro token
    rw [render_restricted plan rfl, restrictionText_eq]
  refine ⟨text (beforeRestriction plan), text afterRestriction, hrestricted, ?_, ?_, ?_⟩
  · intro ids hids
    rw [render_literal plan hids]
    exact hrestricted (idList ids)
  · intro token honce ids hids
    rw [render_literal plan hids]
    exact replaceAll_of_one_place honce (idList ids)
  · intro token htoken hfree
    apply hfree.occurrences_eq_places
    intro hempty
    exact htoken (String.toList_eq_nil_iff.mp hempty)

def subscribersIn (country : String) : Plan :=
  ((Plan.baseline.filter (.columnIn .country [country])).filter
    (.columnIs .subscriptionStatus "subscribed")).distinct

theorem filled_template_of_subscribersIn :
    Text.places ({} : Settings).placeholder.toList
        (render (subscribersIn "DE") (.placeholder ({} : Settings).placeholder)).toList = 1 ∧
      String.ofList (Text.replaceAll ({} : Settings).placeholder.toList
          (String.intercalate ", " (([3, -5] : List Int).map toString)).toList
          (render (subscribersIn "DE") (.placeholder ({} : Settings).placeholder)).toList) =
        render (subscribersIn "DE") (.literal [3, -5]) := by
  rcases filled_template_is_bounded (subscribersIn "DE") with
    ⟨_, _, _, _, hfilled, hcounted⟩
  have hstrings : tokensCarried ({} : Settings).placeholder.toList
      (subscribersIn "DE").carried = 0 := by
    rw [tokensCarried_eq_zero Compiler.isToken_default]
    decide
  have htemplate := occurrences_template Compiler.isToken_default (subscribersIn "DE")
  rw [hstrings, hcounted _ (by decide) (by decide)] at htemplate
  exact ⟨htemplate, hfilled _ htemplate [3, -5] (by decide)⟩

end Statement
end Audience
