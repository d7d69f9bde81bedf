import Audience.Geo.Geocoder

/-!
# Chains of geocoders

## Providers in turn

A geocoder is a tree of fallbacks over providers.  Its providers are tried from the left to
the right, and the first that succeeds ends the search; if none does, the last one ends it.
A provider that answers otherwise when it is asked again is another provider in each place
of the tree, since no place is asked twice.
-/

namespace Audience
namespace Geo

variable {postalCode : String}

def Provider.Fails (postalCode : String) (p : Provider) : Prop :=
  exists cause, (p.lookup postalCode).outcome = .error cause

def Provider.Finds (postalCode : String) (p : Provider) : Prop :=
  exists place, (p.lookup postalCode).outcome = .ok place

theorem Provider.fails_or_finds (postalCode : String) (p : Provider) :
    p.Fails postalCode ∨ p.Finds postalCode := by
  unfold Provider.Fails Provider.Finds
  cases (p.lookup postalCode).outcome with
  | error cause =>
      exact Or.inl ⟨cause, rfl⟩
  | ok place =>
      exact Or.inr ⟨place, rfl⟩

theorem Provider.Fails.not_finds {p : Provider} (h : p.Fails postalCode) :
    ¬ p.Finds postalCode := by
  intro h
  rcases h with ⟨place, hplace⟩
  rcases h with ⟨cause, hcause⟩
  rw [hcause] at hplace
  cases hplace

/-- A provider ends the search in a list of them: all in front of it fail, and it succeeds or
is the last. -/
structure EndsSearch (postalCode : String) (providers before : List Provider)
    (last : Provider) (after : List Provider) : Prop where
  order : providers = before ++ last :: after
  failed : forall p, p ∈ before -> p.Fails postalCode
  ends : last.Finds postalCode ∨ after = []

namespace EndsSearch

variable {providers before after : List Provider} {last : Provider}

theorem append_of_finds (h : EndsSearch postalCode providers before last after)
    (hfinds : last.Finds postalCode) (others : List Provider) :
    EndsSearch postalCode (providers ++ others) before last (after ++ others) where
  order := by rw [h.order, List.append_assoc, List.cons_append]
  failed := h.failed
  ends := Or.inl hfinds

theorem all_fail (h : EndsSearch postalCode providers before last after)
    (hfails : last.Fails postalCode) : forall p, p ∈ providers -> p.Fails postalCode := by
  have hafter : after = [] := h.ends.resolve_left hfails.not_finds
  intro p hp
  rw [h.order, hafter, List.mem_append, List.mem_singleton] at hp
  rcases hp with hp | rfl
  · exact h.failed p hp
  · exact hfails

theorem append_of_fail {others otherBefore otherAfter : List Provider} {otherLast : Provider}
    (h : EndsSearch postalCode others otherBefore otherLast otherAfter)
    (hfail : forall p, p ∈ providers -> p.Fails postalCode) :
    EndsSearch postalCode (providers ++ others) (providers ++ otherBefore) otherLast
      otherAfter where
  order := by rw [h.order, List.append_assoc]
  failed := by
    intro p hp
    rcases List.mem_append.mp hp with hp | hp
    · exact hfail p hp
    · exact h.failed p hp
  ends := h.ends

private theorem goes_no_further {p : Provider} {otherBefore otherAfter : List Provider}
    {otherLast : Provider} (h : EndsSearch postalCode providers [] last after)
    (hother : EndsSearch postalCode providers (p :: otherBefore) otherLast otherAfter) :
    False := by
  have hsame := List.cons.inj (h.order.symm.trans hother.order)
  have hfails : last.Fails postalCode := hsame.left ▸ hother.failed p List.mem_cons_self
  have hafter : after = [] := h.ends.resolve_left hfails.not_finds
  rw [hafter] at hsame
  exact List.append_ne_nil_of_right_ne_nil _ (List.cons_ne_nil _ _) hsame.right.symm

theorem unique {otherBefore otherAfter : List Provider} {otherLast : Provider}
    (h : EndsSearch postalCode providers before last after)
    (hother : EndsSearch postalCode providers otherBefore otherLast otherAfter) :
    before = otherBefore ∧ last = otherLast ∧ after = otherAfter := by
  induction before generalizing providers otherBefore with
  | nil =>
      cases otherBefore with
      | nil =>
          exact ⟨rfl, List.cons.inj (h.order.symm.trans hother.order)⟩
      | cons p otherBefore =>
          exact (h.goes_no_further hother).elim
  | cons p before ih =>
      cases otherBefore with
      | nil =>
          exact (hother.goes_no_further h).elim
      | cons q otherBefore =>
          have hsame := List.cons.inj (h.order.symm.trans hother.order)
          have hbehind : EndsSearch postalCode (before ++ last :: after) before last after :=
            ⟨rfl, fun r hr => h.failed r (List.mem_cons_of_mem p hr), h.ends⟩
          have hotherBehind : EndsSearch postalCode (before ++ last :: after) otherBefore
              otherLast otherAfter :=
            ⟨hsame.right,
              fun r hr => hother.failed r (List.mem_cons_of_mem q hr), hother.ends⟩
          have hrest := ih hbehind hotherBehind
          exact ⟨List.cons_eq_cons.mpr ⟨hsame.left, hrest.left⟩, hrest.right⟩

end EndsSearch

def requestsOf (postalCode : String) (asked : List Provider) : List Http.Request :=
  asked.flatMap fun p => (p.lookup postalCode).requests

theorem requestsOf_append (postalCode : String) (asked others : List Provider) :
    requestsOf postalCode (asked ++ others) =
      requestsOf postalCode asked ++ requestsOf postalCode others := by
  unfold requestsOf
  exact List.flatMap_append

namespace Geocoder

/-!
## Searching a tree
-/

def providers : Geocoder -> List Provider
  | provider p => [p]
  | fallback primary secondary => primary.providers ++ secondary.providers

private theorem lookup_fallback_of_ok {primary : Geocoder} {place : Coordinates}
    (h : (primary.lookup postalCode).outcome = .ok place) (secondary : Geocoder) :
    (fallback primary secondary).lookup postalCode = primary.lookup postalCode := by
  simp only [lookup, h]

private theorem lookup_fallback_of_error {primary : Geocoder} {cause : GeocodeError}
    (h : (primary.lookup postalCode).outcome = .error cause) (secondary : Geocoder) :
    (fallback primary secondary).lookup postalCode =
      ⟨(primary.lookup postalCode).requests ++ (secondary.lookup postalCode).requests,
        (secondary.lookup postalCode).outcome⟩ := by
  simp only [lookup, h]

/-- A lookup sends the requests of the providers up to the one that ends the search, and has
the outcome of this one. -/
theorem exists_endsSearch (geocoder : Geocoder) (postalCode : String) :
    exists before last after,
      EndsSearch postalCode geocoder.providers before last after ∧
        geocoder.lookup postalCode =
          ⟨requestsOf postalCode (before ++ [last]), (last.lookup postalCode).outcome⟩ := by
  induction geocoder with
  | provider p =>
      refine ⟨[], p, [], ?_, ?_⟩
      · exact ⟨rfl, fun q hq => (List.not_mem_nil hq).elim, Or.inr rfl⟩
      · show p.lookup postalCode = _
        simp [requestsOf]
  | fallback primary secondary ihPrimary ihSecondary =>
      rcases ihPrimary with ⟨before, last, after, hends, hlookup⟩
      have houtcome : (primary.lookup postalCode).outcome =
          (last.lookup postalCode).outcome := by
        rw [hlookup]
      rcases last.fails_or_finds postalCode with hfails | hfinds
      · rcases ihSecondary with ⟨otherBefore, otherLast, otherAfter, hother, hotherLookup⟩
        have hall := hends.all_fail hfails
        have hafter : after = [] := hends.ends.resolve_left hfails.not_finds
        have horder : primary.providers = before ++ [last] := by
          rw [hends.order, hafter]
        have hrequests : requestsOf postalCode (primary.providers ++ otherBefore ++ [otherLast]) =
            requestsOf postalCode (before ++ [last]) ++
              requestsOf postalCode (otherBefore ++ [otherLast]) := by
          rw [horder, List.append_assoc, requestsOf_append]
        rcases hfails with ⟨cause, hcause⟩
        refine ⟨primary.providers ++ otherBefore, otherLast, otherAfter,
          hother.append_of_fail hall, ?_⟩
        rw [lookup_fallback_of_error (houtcome.trans hcause), hlookup, hotherLookup, hrequests]
      · have ⟨place, hplace⟩ := hfinds
        refine ⟨before, last, after ++ secondary.providers,
          hends.append_of_finds hfinds _, ?_⟩
        rw [lookup_fallback_of_ok (houtcome.trans hplace), hlookup]

theorem lookup_of_endsSearch {geocoder : Geocoder} {before after : List Provider}
    {last : Provider} (h : EndsSearch postalCode geocoder.providers before last after) :
    geocoder.lookup postalCode =
      ⟨requestsOf postalCode (before ++ [last]), (last.lookup postalCode).outcome⟩ := by
  rcases geocoder.exists_endsSearch postalCode with ⟨_, _, _, hends, hlookup⟩
  rcases h.unique hends with ⟨rfl, rfl, rfl⟩
  exact hlookup

private theorem resolve_eq_ok {geocoder : Geocoder} {place : Coordinates} :
    geocoder.resolve postalCode = .ok place <->
      exists before p after, geocoder.providers = before ++ p :: after ∧
        (forall earlier, earlier ∈ before -> earlier.Fails postalCode) ∧
          (p.lookup postalCode).outcome = .ok place := by
  constructor
  · intro h
    rcases geocoder.exists_endsSearch postalCode with ⟨before, last, after, hends, hlookup⟩
    rw [resolve, hlookup] at h
    exact ⟨before, last, after, hends.order, hends.failed, h⟩
  · intro h
    rcases h with ⟨before, p, after, horder, hfailed, hplace⟩
    rw [resolve, lookup_of_endsSearch ⟨horder, hfailed, Or.inl ⟨place, hplace⟩⟩]
    exact hplace

private theorem resolve_eq_error {geocoder : Geocoder} {cause : GeocodeError} :
    geocoder.resolve postalCode = .error cause <->
      (forall p, p ∈ geocoder.providers -> p.Fails postalCode) ∧
        exists p, geocoder.providers.getLast? = some p ∧
          (p.lookup postalCode).outcome = .error cause := by
  constructor
  · intro h
    rcases geocoder.exists_endsSearch postalCode with ⟨before, last, after, hends, hlookup⟩
    rw [resolve, hlookup] at h
    have hfails : last.Fails postalCode := ⟨cause, h⟩
    have hafter : after = [] := hends.ends.resolve_left hfails.not_finds
    refine ⟨hends.all_fail hfails, last, ?_, h⟩
    rw [hends.order, hafter, List.getLast?_concat]
  · intro h
    rcases h with ⟨hfail, p, hlast, hcause⟩
    rcases List.getLast?_eq_some_iff.mp hlast with ⟨before, horder⟩
    have hbefore : forall earlier, earlier ∈ before -> earlier.Fails postalCode := by
      intro earlier hearlier
      exact hfail earlier (horder ▸ List.mem_append_left _ hearlier)
    rw [resolve, lookup_of_endsSearch ⟨horder, hbefore, Or.inr rfl⟩]
    exact hcause

/--
A lookup tries the providers of a tree in their order up to the first that succeeds.  What it
sends is what these providers send, one after another and each once, and the outcome is that
of the last one tried: the coordinates of the first success or, if there is none, the error
of the last provider.  How the fallbacks are nested has no say in it.
-/
theorem lookup_stops_at_first_success (geocoder : Geocoder) (postalCode : String) :
    (exists before last after,
      EndsSearch postalCode geocoder.providers before last after) ∧
    (forall before last after,
      EndsSearch postalCode geocoder.providers before last after ->
        (geocoder.lookup postalCode).requests = requestsOf postalCode (before ++ [last]) ∧
          geocoder.resolve postalCode = (last.lookup postalCode).outcome) ∧
    (forall place, geocoder.resolve postalCode = .ok place <->
      exists before p after, geocoder.providers = before ++ p :: after ∧
        (forall earlier, earlier ∈ before -> earlier.Fails postalCode) ∧
          (p.lookup postalCode).outcome = .ok place) ∧
    (forall cause, geocoder.resolve postalCode = .error cause <->
      (forall p, p ∈ geocoder.providers -> p.Fails postalCode) ∧
        exists p, geocoder.providers.getLast? = some p ∧
          (p.lookup postalCode).outcome = .error cause) ∧
    forall other : Geocoder, other.providers = geocoder.providers ->
      other.lookup postalCode = geocoder.lookup postalCode := by
  rcases geocoder.exists_endsSearch postalCode with ⟨before, last, after, hends, hlookup⟩
  refine ⟨⟨before, last, after, hends⟩, ?_, fun _ => resolve_eq_ok,
    fun _ => resolve_eq_error, ?_⟩
  · intro otherBefore otherLast otherAfter hother
    rw [resolve, lookup_of_endsSearch hother]
    exact ⟨rfl, rfl⟩
  · intro other hsame
    rw [hlookup]
    exact lookup_of_endsSearch (hsame ▸ hends)

/-- Only the third provider knows the code; the fourth is not asked. -/
example :
    (fallback
      (fallback (provider (.table [])) (provider (.failing "offline" (.noResult "offline"))))
      (fallback (provider (.table [("10001", ⟨2, 2⟩)]))
        (provider (.table [("10001", ⟨3, 3⟩)])))).resolve "10001" = .ok ⟨2, 2⟩ := by
  rfl

end Geocoder
end Geo
end Audience
