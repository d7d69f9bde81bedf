import Audience.Proofs.PlanBoxes
import Audience.Proofs.Usable

/-!
# Radius filters

## Steps of a radius

The distance is read before the geocoder is asked, so a distance that is of no use is reported
whatever the geocoder would say.
-/

namespace Audience

open Text

/-- The text is a finite number of miles above zero. -/
def Entry.IsDistance (raw : String) (miles : Float) : Prop :=
  Number.readFloat? (trim raw.toList) = some miles ∧ miles.isFinite = true ∧ 0.0 < miles

private theorem Entry.distance_eq_error {raw : String}
    (h : forall miles, ¬ IsDistance raw miles) : distance raw = .error (.invalidDistance raw) := by
  unfold distance
  split
  case h_1 miles hread =>
    split
    case isTrue hvalid =>
      rw [Bool.and_eq_true, decide_eq_true_eq] at hvalid
      exact absurd ⟨hread, hvalid⟩ (h miles)
    case isFalse =>
      rfl
  case h_2 =>
    rfl

theorem Geo.Geocoder.resolve_fallback (primary secondary : Geocoder) (postalCode : String) :
    (fallback primary secondary).resolve postalCode =
      match primary.resolve postalCode with
      | .ok center => .ok center
      | .error _ => secondary.resolve postalCode := by
  unfold resolve
  rw [lookup]
  dsimp only
  cases houtcome : (primary.lookup postalCode).outcome with
  | ok center =>
      exact houtcome
  | error cause =>
      rfl

namespace BuiltItem

variable {geocoder : Geo.Geocoder} {postalCode distance : String}

theorem radiusBox_invalid (h : forall miles, ¬ Entry.IsDistance distance miles) :
    radiusBox geocoder postalCode distance = .error (.request (.invalidDistance distance)) := by
  rw [radiusBox, Entry.distance_eq_error h]
  rfl

theorem radiusBox_unresolved {miles : Float} {cause : Geo.GeocodeError}
    (hmiles : Entry.IsDistance distance miles)
    (hcause : geocoder.resolve postalCode = .error cause) :
    radiusBox geocoder postalCode distance = .error (geocodeError postalCode cause) := by
  rw [radiusBox, Entry.distance_eq_ok.mpr hmiles, hcause]
  rfl

theorem radiusBox_resolved {miles : Float} {center : Geo.Coordinates}
    (hmiles : Entry.IsDistance distance miles)
    (hcenter : geocoder.resolve postalCode = .ok center) :
    radiusBox geocoder postalCode distance =
      if (Geo.Box.around center miles).isDegenerate then
        .error (.request (.degenerateBox center))
      else .ok (Geo.Box.around center miles) := by
  rw [radiusBox, Entry.distance_eq_ok.mpr hmiles, hcenter]
  rfl

theorem radiusBox_fallback (primary secondary : Geo.Geocoder) (postalCode distance : String) :
    radiusBox (.fallback primary secondary) postalCode distance =
      match primary.resolve postalCode with
      | .ok _ => radiusBox primary postalCode distance
      | .error _ => radiusBox secondary postalCode distance := by
  unfold radiusBox
  rw [Geo.Geocoder.resolve_fallback]
  cases hprimary : primary.resolve postalCode with
  | ok center =>
      rfl
  | error cause =>
      rfl

/-!
## Outcomes of the filter
-/

variable {item : FilterItem} {raw : String}

theorem postalRadius_exact (hraw : item.values.head? = some raw)
    (hnone : item.companion? distanceCompanion = none) :
    postalRadius geocoder item =
      .ok (toggled (.columnIs .zip (trimmed raw)) ("in zip code " ++ trimmed raw)
        item.included) := by
  rw [postalRadius, firstValue_eq_ok.mpr hraw, hnone]
  rfl

theorem postalRadius_around (hraw : item.values.head? = some raw)
    (hdistance : item.companion? distanceCompanion = some distance) :
    postalRadius geocoder item =
      (radiusBox geocoder (trimmed raw) distance).map fun box =>
        toggled (.within box)
          ("within " ++ trimmed distance ++ " miles of " ++ trimmed raw) item.included := by
  rw [postalRadius, firstValue_eq_ok.mpr hraw, hdistance]
  rfl

/-- What comes of a postal code with a distance around it. -/
structure SettlesRadius (geocoder : Geo.Geocoder) (item : FilterItem)
    (postalCode distance : String) : Prop where
  invalid : (forall miles, ¬ Entry.IsDistance distance miles) ->
    postalRadius geocoder item = .error (.request (.invalidDistance distance))
  noResult : forall miles provider asked, Entry.IsDistance distance miles ->
    geocoder.resolve postalCode = .error (.noResult provider asked) ->
    postalRadius geocoder item = .error (.request (.unresolvedPostalCode postalCode))
  malformed : forall miles provider detail, Entry.IsDistance distance miles ->
    geocoder.resolve postalCode = .error (.malformed provider detail) ->
    postalRadius geocoder item = .error (.request (.unresolvedPostalCode postalCode))
  transport : forall miles provider source, Entry.IsDistance distance miles ->
    geocoder.resolve postalCode = .error (.transport provider source) ->
    postalRadius geocoder item = .error (.geocode (.transport provider source))
  degenerate : forall miles center, Entry.IsDistance distance miles ->
    geocoder.resolve postalCode = .ok center -> ¬ (Geo.Box.around center miles).IsUsable ->
    postalRadius geocoder item = .error (.request (.degenerateBox center))
  within : forall miles center, Entry.IsDistance distance miles ->
    geocoder.resolve postalCode = .ok center -> (Geo.Box.around center miles).IsUsable ->
    exists built, postalRadius geocoder item = .ok built ∧
      built.predicate = (Predicate.within (.around center miles)).toggled item.included
  succeeds_iff : Succeeds (postalRadius geocoder item) <->
    exists miles center, Entry.IsDistance distance miles ∧
      geocoder.resolve postalCode = .ok center ∧ (Geo.Box.around center miles).IsUsable

private theorem settlesRadius (geocoder : Geo.Geocoder) (hraw : item.values.head? = some raw)
    (hdistance : item.companion? distanceCompanion = some distance) :
    SettlesRadius geocoder item (trimmed raw) distance where
  invalid := by
    intro hnone
    rw [postalRadius_around hraw hdistance, radiusBox_invalid hnone]
    rfl
  noResult := by
    intro miles provider asked hmiles hcause
    rw [postalRadius_around hraw hdistance, radiusBox_unresolved hmiles hcause]
    rfl
  malformed := by
    intro miles provider detail hmiles hcause
    rw [postalRadius_around hraw hdistance, radiusBox_unresolved hmiles hcause]
    rfl
  transport := by
    intro miles provider source hmiles hcause
    rw [postalRadius_around hraw hdistance, radiusBox_unresolved hmiles hcause]
    rfl
  degenerate := by
    intro miles center hmiles hcenter hunusable
    rw [Geo.Box.isUsable_iff, Bool.not_eq_false] at hunusable
    rw [postalRadius_around hraw hdistance, radiusBox_resolved hmiles hcenter, if_pos hunusable]
    rfl
  within := by
    intro miles center hmiles hcenter husable
    rw [Geo.Box.isUsable_iff, ← Bool.not_eq_true] at husable
    rw [postalRadius_around hraw hdistance, radiusBox_resolved hmiles hcenter, if_neg husable]
    exact ⟨_, rfl, toggled_predicate _ _ _⟩
  succeeds_iff := by
    rw [postalRadius_succeeds_iff]
    simp [hraw, hdistance, FilterItem.HasBox, Entry.IsDistance, Geo.Box.isUsable_iff, and_assoc]

/-- Without a distance the filter is the exact postal code, and with a distance it is a usable box
or an error. -/
structure RadiusFilter (geocoder : Geo.Geocoder) (item : FilterItem) : Prop where
  missing : item.values = [] ->
    postalRadius geocoder item = .error (.request (.missingValue item.name))
  exactly : forall raw, item.values.head? = some raw ->
    item.companion? distanceCompanion = none ->
    exists built, (forall other, postalRadius other item = .ok built) ∧
      built.predicate = (Predicate.columnIs .zip (trimmed raw)).toggled item.included
  around : forall raw distance, item.values.head? = some raw ->
    item.companion? distanceCompanion = some distance ->
    SettlesRadius geocoder item (trimmed raw) distance
  /-- No error is hidden behind everybody or nobody. -/
  narrows : forall built, postalRadius geocoder item = .ok built ->
    built.predicate ≠ .everyone ∧ built.predicate ≠ .nobody
  fallback : forall primary secondary raw, geocoder = .fallback primary secondary ->
    item.values.head? = some raw ->
    postalRadius geocoder item =
      match primary.resolve (trimmed raw) with
      | .ok _ => postalRadius primary item
      | .error _ => postalRadius secondary item

private theorem radiusFilter (geocoder : Geo.Geocoder) (item : FilterItem) :
    RadiusFilter geocoder item where
  missing := by
    intro hnone
    rw [postalRadius, firstValue, hnone]
    rfl
  exactly := by
    intro raw hraw hnone
    exact ⟨_, fun _ => postalRadius_exact hraw hnone, toggled_predicate _ _ _⟩
  around := by
    intro raw distance hraw hdistance
    exact settlesRadius geocoder hraw hdistance
  narrows := by
    intro built hbuilt
    rcases postalRadius_made hbuilt with ⟨leaf, hmakes, hpredicate⟩
    rw [hpredicate]
    cases hmakes <;> cases item.included <;> simp [Predicate.toggled, Predicate.negate]
  fallback := by
    intro primary secondary raw hgeocoder hraw
    rw [hgeocoder]
    cases hdistance : item.companion? distanceCompanion with
    | none =>
        rw [postalRadius_exact hraw hdistance, postalRadius_exact hraw hdistance,
          postalRadius_exact hraw hdistance]
        cases primary.resolve (trimmed raw) <;> rfl
    | some distance =>
        rw [postalRadius_around hraw hdistance, postalRadius_around hraw hdistance,
          postalRadius_around hraw hdistance, radiusBox_fallback]
        cases primary.resolve (trimmed raw) <;> rfl

end BuiltItem

/-!
## Requests
-/

structure Compiler.RadiiNarrow (compiler : Compiler) : Prop where
  filter : forall spec item, spec.builder = .postalRadius ->
    BuiltItem.ofItem compiler.sources spec item =
        BuiltItem.postalRadius compiler.sources.geocoder item ∧
      BuiltItem.RadiusFilter compiler.sources.geocoder item
  /-- Every box of a plan can be used, unless it was put there from outside. -/
  plan : forall form assembled box, compiler.assemble form = .ok assembled ->
    box ∈ assembled.plan.selection.boxes ->
    box.IsUsable ∨ compiler.ExtensionAsksFor form box ∨ compiler.ModifierAsksFor box
  standard : compiler.extensions = .standard -> compiler.modifier = none ->
    forall form assembled box, compiler.assemble form = .ok assembled ->
      box ∈ assembled.plan.selection.boxes -> box.IsUsable

theorem Compiler.radii_narrow_or_fail (compiler : Compiler) : compiler.RadiiNarrow where
  filter := by
    intro spec item hspec
    refine ⟨?_, BuiltItem.radiusFilter compiler.sources.geocoder item⟩
    rw [BuiltItem.ofItem, hspec]
  plan := fun _ _ _ h hbox => boxes_of_assemble h hbox
  standard := fun hextensions hmodifier _ _ _ h hbox =>
    boxes_of_assemble_standard hextensions hmodifier h hbox

/-- A compiler whose first provider finds nothing and whose second cannot be asked. -/
def Compiler.offline : Compiler :=
  { standalone {} with
    sources :=
      ⟨.fallback (.provider (.table []))
        (.provider (.failing "backup" fun _ => .transport "backup" "no connection")),
        .ofRecords []⟩ }

def aroundBoston (distance : String) : FilterItem :=
  ⟨"zipcode", [" 02134 "], true, [(distanceCompanion, distance)]⟩

theorem Entry.not_isDistance_of_eq {raw : String} {miles : Float}
    (hread : Number.readFloat? (trim raw.toList) = some miles)
    (huseless : ¬ (miles.isFinite = true ∧ 0.0 < miles)) (other : Float) :
    ¬ IsDistance raw other := by
  intro h
  rcases h with ⟨hother, hvalid⟩
  rw [hread] at hother
  cases hother
  exact huseless hvalid

/-- A distance of no use is found out before anyone is asked. -/
theorem Compiler.radii_narrow_or_fail_offline :
    BuiltItem.ofItem offline.sources (Catalog.ofBuilder "zipcode" .postalRadius [])
        (aroundBoston " 5 ") = .error (.geocode (.transport "backup" "no connection")) ∧
      BuiltItem.ofItem offline.sources (Catalog.ofBuilder "zipcode" .postalRadius [])
        (aroundBoston "-5") = .error (.request (.invalidDistance "-5")) ∧
      BuiltItem.ofItem offline.sources (Catalog.ofBuilder "zipcode" .postalRadius [])
        (aroundBoston "NaN") = .error (.request (.invalidDistance "NaN")) ∧
      BuiltItem.ofItem offline.sources (Catalog.ofBuilder "zipcode" .postalRadius [])
        ⟨"zipcode", [" 02134 "], false, []⟩ =
          .ok ⟨.not (.columnIs .zip "02134"), "not in zip code 02134"⟩ := by
  have hfilter := fun item =>
    (radii_narrow_or_fail offline).filter (Catalog.ofBuilder "zipcode" .postalRadius []) item rfl
  have haround : forall distance, BuiltItem.SettlesRadius offline.sources.geocoder
      (aroundBoston distance) "02134" distance :=
    fun distance => (hfilter _).right.around " 02134 " distance rfl rfl
  refine ⟨?offline, ?negative, ?undefined, ?exact⟩
  case offline =>
    rw [(hfilter _).left]
    exact (haround " 5 ").transport 5.0 "backup" "no connection" ⟨rfl, by decide, by decide⟩ rfl
  case negative =>
    rw [(hfilter _).left]
    exact (haround "-5").invalid (Entry.not_isDistance_of_eq rfl (by decide))
  case undefined =>
    rw [(hfilter _).left]
    exact (haround "NaN").invalid (Entry.not_isDistance_of_eq rfl (by decide))
  case exact =>
    rw [(hfilter _).left]
    rfl

end Audience
