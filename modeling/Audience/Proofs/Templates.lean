import Audience.Proofs.Restriction
import Audience.Proofs.Stages

/-!
# Templates written and templates read back

## Errors before the template

The two ways to a template share everything up to the plan.  No stage before the template
fails with an error of its own kind, so such an error always tells about the template.
-/

namespace Audience

def NoCapture (outcome : Except SearchError α) : Prop :=
  forall cause, outcome ≠ .error (.capture cause)

theorem noCapture_ok (value : α) : NoCapture (.ok value) := by
  intro cause h
  cases h

theorem noCapture_bind {first : Except SearchError α} {next : α -> Except SearchError β}
    (hfirst : NoCapture first) (hnext : forall value, NoCapture (next value)) :
    NoCapture (first >>= next) := by
  intro cause h
  cases first with
  | error found =>
      cases h
      exact hfirst cause rfl
  | ok value =>
      exact hnext value cause h

theorem noCapture_request (outcome : Except RequestError α) :
    NoCapture (outcome.mapError .request) := by
  intro cause h
  cases outcome <;> cases h

namespace BuiltItem

private theorem radiusBox_noCapture (geocoder : Geo.Geocoder) (postalCode rawDistance : String) :
    NoCapture (radiusBox geocoder postalCode rawDistance) := by
  unfold radiusBox
  refine noCapture_bind (noCapture_request _) fun miles => ?_
  refine noCapture_bind ?_ fun center => ?_
  · intro cause h
    cases hresolve : geocoder.resolve postalCode with
    | error failure =>
        rw [hresolve] at h
        cases failure <;> cases h
    | ok center =>
        rw [hresolve] at h
        cases h
  · dsimp only
    split
    · intro cause h
      cases h
    · exact noCapture_ok _

private theorem postalRadius_noCapture (geocoder : Geo.Geocoder) (item : FilterItem) :
    NoCapture (postalRadius geocoder item) := by
  unfold postalRadius
  refine noCapture_bind (noCapture_request _) fun raw => ?_
  dsimp only
  split
  · exact noCapture_ok _
  · exact noCapture_bind (radiusBox_noCapture _ _ _) fun box => noCapture_ok _

private theorem contacted_noCapture (log : ContactLog) (criteria : ContactCriteria) :
    NoCapture (contacted log criteria) := by
  unfold contacted
  split
  · exact noCapture_ok _
  · intro cause h
    cases h

private theorem ofItem_noCapture (sources : Sources) (spec : FilterSpec) (item : FilterItem) :
    NoCapture (ofItem sources spec item) := by
  unfold ofItem
  cases spec.builder with
  | postalRadius =>
      exact postalRadius_noCapture _ _
  | contactedSince =>
      refine noCapture_bind (noCapture_request _) fun raw => ?_
      refine noCapture_bind (noCapture_request _) fun since => ?_
      exact noCapture_bind (contacted_noCapture _ _) fun p => noCapture_ok _
  | contactedBy =>
      refine noCapture_bind (noCapture_request _) fun raw => ?_
      refine noCapture_bind (noCapture_request _) fun since => ?_
      exact noCapture_bind (contacted_noCapture _ _) fun p => noCapture_ok _
  | _ =>
      exact noCapture_request _

private theorem ofItems_noCapture (sources : Sources) (catalog : Catalog)
    (items : List FilterItem) :
    NoCapture (ofItems sources catalog items) := by
  induction items with
  | nil =>
      exact noCapture_ok _
  | cons item items ih =>
      unfold ofItems
      split
      · intro cause h
        cases h
      · refine noCapture_bind (ofItem_noCapture _ _ _) fun first => ?_
        exact noCapture_bind ih fun rest => noCapture_ok _

private theorem ofGroups_noCapture (sources : Sources) (catalog : Catalog)
    (groups : List FilterGroup) :
    NoCapture (ofGroups sources catalog groups) := by
  induction groups with
  | nil =>
      exact noCapture_ok _
  | cons group groups ih =>
      unfold ofGroups
      refine noCapture_bind (ofItems_noCapture _ _ _) fun first => ?_
      exact noCapture_bind ih fun rest => noCapture_ok _

end BuiltItem

namespace Compiler

private theorem extensionSearch_noCapture (compiler : Compiler) (form : Form) :
    NoCapture (compiler.extensionSearch form) := by
  unfold extensionSearch
  split
  · exact noCapture_ok _
  · split
    · intro cause h
      cases h
    · exact noCapture_request _

private theorem parts_noCapture (compiler : Compiler) (form : Form) :
    NoCapture (compiler.parts form) := by
  unfold Compiler.parts
  refine noCapture_bind (noCapture_request _) fun groups => ?_
  refine noCapture_bind (BuiltItem.ofGroups_noCapture _ _ _) fun built => ?_
  refine noCapture_bind (noCapture_request _) fun ids => ?_
  exact noCapture_bind (extensionSearch_noCapture _ _) fun extensions => noCapture_ok _

theorem assemble_noCapture (compiler : Compiler) (form : Form) :
    NoCapture (compiler.assemble form) := by
  intro cause h
  rw [assemble_eq_map_parts] at h
  cases hparts : compiler.parts form with
  | error found =>
      rw [hparts] at h
      cases h
      exact parts_noCapture compiler form cause hparts
  | ok parts =>
      rw [hparts] at h
      cases h

end Compiler

/-!
## Reading a statement back

The statement with the sentinel always holds the sentinel, so it is always refused and
always found in the log.  What can happen is that the same fragment stands elsewhere in the
statement as well.
-/

namespace Statement

/-- The restriction to the sentinel also stands outside the place where it belongs. -/
def StandsElsewhere (plan : Plan) (sentinel : Int) : Prop :=
  (restrictionText (toString sentinel)).toList <:+: chars (beforeRestriction plan) ∨
    (restrictionText (toString sentinel)).toList <:+: chars afterRestriction

theorem sentinel_endsOnce (sentinel : Int) :
    Text.EndsOnce (restrictionText (toString sentinel)).toList :=
  restrictionText_endsOnce (Number.isNumeral_int sentinel).no_parenthesis

theorem render_sentinel (plan : Plan) (sentinel : Int) :
    render plan (.literal [sentinel]) =
      text (beforeRestriction plan) ++ restrictionText (toString sentinel) ++
        text afterRestriction := by
  apply render_restricted
  simp [IdSet.condition?, idList]

theorem toList_render_sentinel (plan : Plan) (sentinel : Int) :
    (render plan (.literal [sentinel])).toList =
      chars (beforeRestriction plan) ++
        ((restrictionText (toString sentinel)).toList ++ chars afterRestriction) := by
  simp [render_sentinel]

private theorem execute_rejecting (plan : Plan) (sentinel : Int) (log : List String) :
    (Backend.rejecting sentinel).execute log (render plan (.literal [sentinel])) =
      (none, log ++ [render plan (.literal [sentinel])]) := by
  have hrestriction : (toString sentinel).toList <:+:
      (restrictionText (toString sentinel)).toList := by
    rw [restrictionText, toList_text]
    exact ⟨"\"core_user\".\"id\" IN (".toList, [')'], rfl⟩
  have hoccurs : Text.occurs (toString sentinel).toList
      (render plan (.literal [sentinel])).toList = true := by
    rw [Text.occurs_iff, toList_render_sentinel]
    refine hrestriction.trans ?_
    exact ⟨chars (beforeRestriction plan), chars afterRestriction,
      List.append_assoc _ _ _⟩
  simp only [Backend.execute, Backend.rejecting, hoccurs, if_true, Option.toList_some]

theorem capture_rejecting (plan : Plan) (sentinel : Int) (placeholder : String)
    (log : List String) :
    capture sentinel placeholder (.rejecting sentinel) plan log =
      (withPlaceholder sentinel placeholder (render plan (.literal [sentinel])),
        log ++ [render plan (.literal [sentinel])]) := by
  rw [capture, execute_rejecting]
  simp only [List.getLast?_concat]

theorem withPlaceholder_of_once {plan : Plan} {sentinel : Int}
    (h : ¬ StandsElsewhere plan sentinel) (placeholder : String) :
    withPlaceholder sentinel placeholder (render plan (.literal [sentinel])) =
      .ok (render plan (.placeholder placeholder)) := by
  have hends := sentinel_endsOnce sentinel
  rw [StandsElsewhere, not_or] at h
  have hbefore := Text.occurrences_pos_iff hends.ne_nil (chars (beforeRestriction plan))
  have hafter := Text.occurrences_pos_iff hends.ne_nil (chars afterRestriction)
  have hcount : Text.occurrences (restrictionText (toString sentinel)).toList
      (render plan (.literal [sentinel])).toList = 1 := by
    rw [toList_render_sentinel, Text.occurrences_append hends]
    rw [← hbefore, ← hafter] at h
    omega
  have htemplate : render plan (.placeholder placeholder) =
      text (beforeRestriction plan) ++ restrictionText placeholder ++
        text afterRestriction :=
    render_restricted plan rfl
  simp only [withPlaceholder, hcount]
  congr 1
  apply String.toList_injective
  rw [String.toList_ofList, toList_render_sentinel,
    Text.replaceAll_append hends h.left h.right, htemplate]
  simp only [String.toList_append, toList_text, List.append_assoc]

theorem withPlaceholder_of_standsElsewhere {plan : Plan} {sentinel : Int}
    (h : StandsElsewhere plan sentinel) (placeholder : String) :
    exists occurrences, 2 <= occurrences ∧
      withPlaceholder sentinel placeholder (render plan (.literal [sentinel])) =
        .error (.ambiguousSentinel (restrictionText (toString sentinel)) occurrences) := by
  have hends := sentinel_endsOnce sentinel
  have hbefore := Text.occurrences_pos_iff hends.ne_nil (chars (beforeRestriction plan))
  have hafter := Text.occurrences_pos_iff hends.ne_nil (chars afterRestriction)
  have hcount : 2 <= Text.occurrences (restrictionText (toString sentinel)).toList
      (render plan (.literal [sentinel])).toList := by
    rw [toList_render_sentinel, Text.occurrences_append hends]
    rw [StandsElsewhere, ← hbefore, ← hafter] at h
    omega
  refine ⟨_, hcount, ?_⟩
  unfold withPlaceholder
  dsimp only
  split
  · omega
  · omega
  · rfl

end Statement

/-!
## Both ways
-/

namespace Compiler

def direct (compiler : Compiler) : Compiler :=
  { compiler with backend := none }

/-- The compiler that reads templates back from a backend that refuses the sentinel. -/
def capturing (compiler : Compiler) : Compiler :=
  { compiler with backend := some (.rejecting compiler.settings.sentinelId) }

theorem compileForm_direct (compiler : Compiler) (form : Form) (request : String)
    (log : List String) :
    (compiler.direct.compileForm form request log).1 =
      (compiler.assemble form).map fun assembled =>
        ⟨assembled.description, request,
          Statement.render assembled.plan (.placeholder compiler.settings.placeholder)⟩ := by
  have hassemble : compiler.direct.assemble form = compiler.assemble form := rfl
  rw [compileForm, hassemble]
  cases compiler.assemble form with
  | error cause =>
      rfl
  | ok assembled =>
      rfl

private theorem compileForm_capturing_error {compiler : Compiler} {form : Form}
    {cause : SearchError} (h : compiler.assemble form = .error cause) (request : String)
    (log : List String) :
    (compiler.capturing.compileForm form request log).1 = .error cause := by
  have hassemble : compiler.capturing.assemble form = compiler.assemble form := rfl
  rw [compileForm, hassemble, h]

private theorem compileForm_capturing_ok {compiler : Compiler} {form : Form}
    {assembled : Assembled} (h : compiler.assemble form = .ok assembled)
    (request : String) (log : List String) :
    (compiler.capturing.compileForm form request log).1 =
      match Statement.withPlaceholder compiler.settings.sentinelId
          compiler.settings.placeholder
          (Statement.render assembled.plan (.literal [compiler.settings.sentinelId])) with
      | .error cause => .error (.capture cause)
      | .ok template => .ok ⟨assembled.description, request, template⟩ := by
  have hassemble : compiler.capturing.assemble form = compiler.assemble form := rfl
  have htemplate : compiler.capturing.template assembled.plan log =
      Statement.capture compiler.settings.sentinelId compiler.settings.placeholder
        (.rejecting compiler.settings.sentinelId) assembled.plan log := rfl
  rw [compileForm, hassemble, h]
  simp only [htemplate, Statement.capture_rejecting]
  cases Statement.withPlaceholder compiler.settings.sentinelId
    compiler.settings.placeholder
    (Statement.render assembled.plan (.literal [compiler.settings.sentinelId])) <;> rfl

/--
Reading templates back gives what writing them gives, or tells that the sentinel is
ambiguous.  It is ambiguous exactly when the restriction to the sentinel stands elsewhere in
the statement too; nothing but the restriction differs between statement and template.
-/
theorem capturing_agrees_or_ambiguous (compiler : Compiler) (form : Form)
    (request : String) (log directLog : List String) :
    (forall cause,
      (compiler.direct.compileForm form request directLog).1 = .error cause ->
        (compiler.capturing.compileForm form request log).1 = .error cause ∧
          forall failure, cause ≠ .capture failure) ∧
    forall query,
      (compiler.direct.compileForm form request directLog).1 = .ok query ->
        exists assembled, compiler.assemble form = .ok assembled ∧
          Statement.render assembled.plan (.literal [compiler.settings.sentinelId]) =
            Statement.text (Statement.beforeRestriction assembled.plan) ++
              Statement.restrictionText (toString compiler.settings.sentinelId) ++
              Statement.text Statement.afterRestriction ∧
          query.template =
            Statement.text (Statement.beforeRestriction assembled.plan) ++
              Statement.restrictionText compiler.settings.placeholder ++
              Statement.text Statement.afterRestriction ∧
          (¬ Statement.StandsElsewhere assembled.plan compiler.settings.sentinelId ->
            (compiler.capturing.compileForm form request log).1 = .ok query) ∧
          (Statement.StandsElsewhere assembled.plan compiler.settings.sentinelId ->
            exists occurrences, 2 <= occurrences ∧
              (compiler.capturing.compileForm form request log).1 =
                .error (.capture (.ambiguousSentinel
                  (Statement.restrictionText (toString compiler.settings.sentinelId))
                  occurrences))) := by
  rw [compileForm_direct]
  cases hassemble : compiler.assemble form with
  | error found =>
      constructor
      · intro cause hcause
        cases hcause
        refine ⟨compileForm_capturing_error hassemble request log, ?_⟩
        intro failure hfailure
        rw [hfailure] at hassemble
        exact assemble_noCapture compiler form failure hassemble
      · intro query hquery
        cases hquery
  | ok assembled =>
      constructor
      · intro cause hcause
        cases hcause
      · intro query hquery
        cases hquery
        rw [compileForm_capturing_ok hassemble]
        refine ⟨assembled, rfl, Statement.render_sentinel _ _,
          Statement.render_restricted _ rfl, ?_, ?_⟩
        · intro honce
          rw [Statement.withPlaceholder_of_once honce]
        · intro helsewhere
          rcases Statement.withPlaceholder_of_standsElsewhere helsewhere
            compiler.settings.placeholder with ⟨occurrences, hcount, houtcome⟩
          exact ⟨occurrences, hcount, by rw [houtcome]⟩

end Compiler
end Audience
