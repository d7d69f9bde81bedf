import Audience.Proofs.Denotation
import Audience.Proofs.FloatOrder

/-!
# Boxes in plans

## Usable boxes

A box is of use if its bounds are finite and its longitudes do not go all the way round.  This is
what is checked of a box before it becomes a condition.
-/

namespace Audience

structure Geo.Box.IsUsable (box : Geo.Box) : Prop where
  latMin : box.latMin.isFinite = true
  latMax : box.latMax.isFinite = true
  lonMin : box.lonMin.isFinite = true
  lonMax : box.lonMax.isFinite = true
  span : box.lonMax - box.lonMin < 360.0

theorem Geo.Box.isUsable_iff {box : Geo.Box} : box.IsUsable <-> box.isDegenerate = false := by
  have hround : (360.0 : Float).isNaN = false := by decide
  rw [isDegenerate, Bool.or_eq_false_iff, Bool.not_eq_false', decide_eq_false_iff_not]
  simp only [Bool.and_eq_true, and_assoc]
  constructor
  · intro h
    rcases h with ⟨hlatMin, hlatMax, hlonMin, hlonMax, hspan⟩
    have hdefined := Number.isNaN_sub hlonMax hlonMin
    exact ⟨hlatMin, hlatMax, hlonMin, hlonMax, (Number.not_le_iff_lt hround hdefined).mpr hspan⟩
  · intro h
    rcases h with ⟨hlatMin, hlatMax, hlonMin, hlonMax, hspan⟩
    have hdefined := Number.isNaN_sub hlonMax hlonMin
    exact ⟨hlatMin, hlatMax, hlonMin, hlonMax, (Number.not_le_iff_lt hround hdefined).mp hspan⟩

/-!
## Boxes of predicates

Combining predicates neither adds nor drops boxes.
-/

namespace Predicate

mutual

/-- The boxes that a predicate asks for, anywhere in its tree. -/
def boxes : Predicate -> List Geo.Box
  | within box => [box]
  | all parts => boxesOf parts
  | any parts => boxesOf parts
  | not inner => boxes inner
  | everyone | nobody | columnIn _ _ | columnIs _ _ | created _ _ | related _ _ | idIn _
  | figure _ _ _ _ | like _ _ => []

def boxesOf : List Predicate -> List Geo.Box
  | [] => []
  | p :: rest => boxes p ++ boxesOf rest

end

@[simp] theorem boxesOf_cons (p : Predicate) (rest : List Predicate) :
    boxesOf (p :: rest) = p.boxes ++ boxesOf rest := rfl

theorem boxesOf_append (ps qs : List Predicate) :
    boxesOf (ps ++ qs) = boxesOf ps ++ boxesOf qs := by
  induction ps with
  | nil =>
      rfl
  | cons p ps ih =>
      simp [ih]

private theorem boxesOf_partsOf (connective : Connective) (p : Predicate) :
    boxesOf (connective.partsOf p) = p.boxes := by
  by_cases hnode : exists parts, p = connective.node parts
  · rcases hnode with ⟨parts, rfl⟩
    cases connective <;> rfl
  · rw [connective.partsOf_of_ne_node (not_exists.mp hnode)]
    exact List.append_nil p.boxes

theorem boxes_join (connective : Connective) (p q : Predicate) :
    (connective.join p q).boxes = p.boxes ++ q.boxes := by
  have hnone : connective.neutral.boxes = [] := by cases connective <;> rfl
  by_cases hp : p = connective.neutral
  · simp [hp, hnone]
  by_cases hq : q = connective.neutral
  · simp [hq, hnone]
  have hnode (parts : List Predicate) : (connective.node parts).boxes = boxesOf parts := by
    cases connective <;> rfl
  rw [connective.join_eq_node hp hq, hnode, boxesOf_append, boxesOf_partsOf, boxesOf_partsOf]

@[simp] theorem boxes_and (p q : Predicate) : (p.and q).boxes = p.boxes ++ q.boxes :=
  boxes_join .conjunction p q

@[simp] theorem boxes_or (p q : Predicate) : (p.or q).boxes = p.boxes ++ q.boxes :=
  boxes_join .disjunction p q

private theorem boxes_negate (p : Predicate) : p.negate.boxes = p.boxes := by
  cases p <;> rfl

private theorem boxes_toggled (p : Predicate) (included : Bool) :
    (p.toggled included).boxes = p.boxes := by
  cases included
  · exact boxes_negate p
  · rfl

theorem mem_boxes_foldl {join : Predicate -> Predicate -> Predicate}
    (hjoin : forall p q, (join p q).boxes = p.boxes ++ q.boxes) {box : Geo.Box} (p : Predicate)
    (qs : List Predicate) :
    box ∈ (qs.foldl join p).boxes <-> box ∈ p.boxes ∨ exists q, q ∈ qs ∧ box ∈ q.boxes := by
  induction qs generalizing p with
  | nil =>
      simp
  | cons q qs ih =>
      rw [List.foldl_cons, ih, hjoin, List.mem_append]
      simp [or_assoc]

end Predicate

/-!
## Boxes of filters
-/

namespace BuiltItem

theorem boxes_of_ofItem {sources : Sources} {spec : FilterSpec} {item : FilterItem}
    {built : BuiltItem} (h : ofItem sources spec item = .ok built) {box : Geo.Box}
    (hbox : box ∈ built.predicate.boxes) : box.IsUsable := by
  rcases ofItem_made h with ⟨leaf, hmakes, hpredicate⟩
  rw [hpredicate, Predicate.boxes_toggled] at hbox
  generalize spec.builder = builder at hmakes
  cases hmakes with
  | within husable =>
      rw [Predicate.boxes, List.mem_singleton] at hbox
      rw [hbox]
      exact Geo.Box.isUsable_iff.mpr husable
  | _ =>
      cases hbox

private theorem mem_boxes_conjunction {built : List BuiltItem} {box : Geo.Box}
    (h : box ∈ (conjunction built).boxes) :
    exists made, made ∈ built ∧ box ∈ made.predicate.boxes := by
  rw [conjunction_eq_foldl, Predicate.mem_boxes_foldl Predicate.boxes_and] at h
  rcases h with hnone | ⟨p, hp, hbox⟩
  · cases hnone
  · rcases List.mem_map.mp hp with ⟨made, hmade, rfl⟩
    exact ⟨made, hmade, hbox⟩

end BuiltItem

namespace Compiler

private theorem mem_boxes_selectionOf {built : List (List BuiltItem)} {box : Geo.Box}
    (h : box ∈ (selectionOf built).boxes) :
    exists items made, items ∈ built ∧ made ∈ items ∧ box ∈ made.predicate.boxes := by
  rw [selectionOf_eq] at h
  split at h
  · cases h
  · rw [Predicate.mem_boxes_foldl Predicate.boxes_or] at h
    rcases h with hnone | ⟨p, hp, hbox⟩
    · cases hnone
    · rcases List.mem_map.mp hp with ⟨items, hitems, rfl⟩
      rcases BuiltItem.mem_boxes_conjunction hbox with ⟨made, hmade, hbox⟩
      exact ⟨items, made, List.mem_of_mem_filter hitems, hmade, hbox⟩

theorem exists_related_of_mem {α β : Type} {related : α -> β -> Prop} {as : List α} {bs : List β}
    (h : List.Forall₂ related as bs) {b : β} (hb : b ∈ bs) :
    exists a, a ∈ as ∧ related a b := by
  induction h with
  | nil =>
      cases hb
  | @cons a first as bs hfirst hrest ih =>
      rcases List.mem_cons.mp hb with rfl | hb
      · exact ⟨a, List.mem_cons_self, hfirst⟩
      · rcases ih hb with ⟨other, hother, hrelated⟩
        exact ⟨other, List.mem_cons_of_mem a hother, hrelated⟩

theorem boxes_of_groups {compiler : Compiler} {groups : List FilterGroup}
    {built : List (List BuiltItem)} (h : compiler.BuiltGroups groups built) {box : Geo.Box}
    (hbox : box ∈ (selectionOf built).boxes) : box.IsUsable := by
  rcases mem_boxes_selectionOf hbox with ⟨items, made, hitems, hmade, hbox⟩
  rcases exists_related_of_mem h hitems with ⟨group, _, hgroup⟩
  rcases exists_related_of_mem hgroup hmade with ⟨item, _, spec, _, hbuilt⟩
  exact BuiltItem.boxes_of_ofItem hbuilt hbox

/-!
## Boxes of plans

Texts, ids and the subscription ask for no box.  Extension columns and modifiers come from
outside, so their boxes are their own affair.
-/

theorem boxes_of_overrides {form : Form} {ids : Option Narrowing} (hids : idSearch? form = .ok ids)
    {narrowing : Narrowing} (h : narrowing ∈ (textSearch? form).toList ++ ids.toList) :
    narrowing.predicate.boxes = [] := by
  have hname : forall name, name ∈ nameSearch? form -> name.predicate.boxes = [] := by
    intro name hname
    rcases Option.map_eq_some_iff.mp hname with ⟨_, _, rfl⟩
    rfl
  have hemail : forall email, email ∈ emailSearch? form -> email.predicate.boxes = [] := by
    intro email hemail
    rcases Option.map_eq_some_iff.mp hemail with ⟨_, _, rfl⟩
    rfl
  rw [List.mem_append, Option.mem_toList, Option.mem_toList] at h
  rcases h with htext | hlisted
  · unfold textSearch? at htext
    split at htext
    case h_1 name email hnameFound hemailFound =>
      cases htext
      rw [Predicate.boxes_or, hname _ hnameFound, hemail _ hemailFound, List.append_nil]
    case h_2 name hnameFound _ =>
      cases htext
      exact hname _ hnameFound
    case h_3 email _ hemailFound =>
      cases htext
      exact hemail _ hemailFound
    case h_4 =>
      cases htext
  · unfold idSearch? at hids
    split at hids
    case h_1 =>
      cases hids
      cases hlisted
    case h_2 =>
      rcases bind_eq_ok.mp hids with ⟨_, _, hids⟩
      cases hids
      cases hlisted
      rfl

/-- A box that one of the requested extension columns asks for. -/
def ExtensionAsksFor (compiler : Compiler) (form : Form) (box : Geo.Box) : Prop :=
  exists columns column extension, compiler.requestedColumns form = .ok columns ∧
    column ∈ columns ∧ compiler.extensions.load column = .ok extension ∧
      box ∈ extension.predicate.boxes

/-- A box that the modifier puts into a plan that does not ask for it. -/
def ModifierAsksFor (compiler : Compiler) (box : Geo.Box) : Prop :=
  exists modify plan, compiler.modifier = some modify ∧ box ∈ (modify plan).selection.boxes ∧
    box ∉ plan.selection.boxes

theorem boxes_of_wanted {compiler : Compiler} {form : Form} {parts : Parts}
    (h : compiler.parts form = .ok parts) {box : Geo.Box}
    (hbox : box ∈ (parts.wanted compiler form).selection.boxes) :
    box.IsUsable ∨ compiler.ExtensionAsksFor form box := by
  rcases parts_eq_ok h with ⟨_, hbuilt, hids, hextensions⟩
  rw [wanted_selection, Predicate.mem_boxes_foldl Predicate.boxes_and,
    Predicate.mem_boxes_foldl Predicate.boxes_and] at hbox
  rcases hbox with (hgroups | ⟨p, hp, hbox⟩) | ⟨p, hp, hbox⟩
  · exact Or.inl (boxes_of_groups (BuiltItem.ofGroups_eq_ok hbuilt) hgroups)
  · rcases List.mem_map.mp hp with ⟨narrowing, hnarrowing, rfl⟩
    rw [boxes_of_overrides hids hnarrowing] at hbox
    cases hbox
  · rcases List.mem_map.mp hp with ⟨narrowing, hnarrowing, rfl⟩
    rcases extensionSearch_eq_ok hextensions with ⟨columns, hcolumns, hloaded⟩
    rcases exists_related_of_mem hloaded hnarrowing with
      ⟨column, hcolumn, extension, hload, hpredicate⟩
    rw [hpredicate] at hbox
    exact Or.inr ⟨columns, column, extension, hcolumns, hcolumn, hload, hbox⟩

private theorem boxes_guarded {plan : Plan} {box : Geo.Box}
    (h : box ∈ (guarded plan).selection.boxes) : box ∈ plan.selection.boxes := by
  unfold guarded at h
  split at h
  · cases h
  · exact h

private theorem boxes_of_modified {compiler : Compiler} {form : Form} {parts : Parts}
    {box : Geo.Box}
    (h : box ∈ (parts.modified compiler form).selection.boxes) :
    box ∈ (parts.wanted compiler form).selection.boxes ∨ compiler.ModifierAsksFor box := by
  unfold Parts.modified at h
  split at h
  case h_1 modify hmodify =>
    by_cases hbefore : box ∈ (guarded (parts.wanted compiler form)).selection.boxes
    · exact Or.inl (boxes_guarded hbefore)
    · exact Or.inr ⟨modify, _, hmodify, h, hbefore⟩
  case h_2 =>
    exact Or.inl (boxes_guarded h)

theorem boxes_of_assemble {compiler : Compiler} {form : Form} {assembled : Assembled}
    (h : compiler.assemble form = .ok assembled) {box : Geo.Box}
    (hbox : box ∈ assembled.plan.selection.boxes) :
    box.IsUsable ∨ compiler.ExtensionAsksFor form box ∨ compiler.ModifierAsksFor box := by
  rcases parts_of_assemble h with ⟨parts, hparts, rfl⟩
  have hselection : (parts.assembled compiler form).plan.selection =
      ((Parts.subscribed compiler form).map (·.predicate)).foldl Predicate.and
        (parts.modified compiler form).selection :=
    narrowed_selection _ _
  rw [hselection, Predicate.mem_boxes_foldl Predicate.boxes_and] at hbox
  rcases hbox with hmodified | ⟨p, hp, hbox⟩
  · rcases boxes_of_modified hmodified with hwanted | hmodifier
    · rcases boxes_of_wanted hparts hwanted with husable | hextension
      · exact Or.inl husable
      · exact Or.inr (Or.inl hextension)
    · exact Or.inr (Or.inr hmodifier)
  · rcases List.mem_map.mp hp with ⟨narrowing, hnarrowing, rfl⟩
    unfold Parts.subscribed at hnarrowing
    split at hnarrowing
    · cases hnarrowing
    · rw [List.mem_singleton.mp hnarrowing] at hbox
      cases hbox

private theorem boxes_of_standard {column : ExtensionColumn} {extension : Extension}
    (h : ExtensionRegistry.standard.load column = .ok extension) :
    extension.predicate.boxes = [] := by
  unfold ExtensionRegistry.load at h
  split at h
  case h_1 factory hfactory =>
    rcases List.lookup_eq_some_iff.mp hfactory with ⟨before, after, hsplit, _⟩
    have hmem : (column.kind, factory) ∈ ExtensionRegistry.standard.factories := by
      rw [hsplit]
      exact List.mem_append_right _ List.mem_cons_self
    simp only [ExtensionRegistry.standard, List.mem_cons, List.not_mem_nil, or_false,
      Prod.mk.injEq] at hmem
    rcases hmem with ⟨_, rfl⟩ | ⟨_, rfl⟩ | ⟨_, rfl⟩
    · rcases bind_eq_ok.mp h with ⟨_, _, h⟩
      cases h
      rfl
    · rcases bind_eq_ok.mp h with ⟨parameter, _, h⟩
      split at h
      · cases h
      · split at h
        · cases h
        · cases h
          rfl
    · cases h
      rfl
  case h_2 =>
    cases h

theorem boxes_of_assemble_standard {compiler : Compiler}
    (hextensions : compiler.extensions = .standard) (hmodifier : compiler.modifier = none)
    {form : Form} {assembled : Assembled} (h : compiler.assemble form = .ok assembled)
    {box : Geo.Box} (hbox : box ∈ assembled.plan.selection.boxes) : box.IsUsable := by
  rcases boxes_of_assemble h hbox with husable | hextension | hmodified
  · exact husable
  · rcases hextension with ⟨_, column, extension, _, _, hload, hbox⟩
    rw [hextensions] at hload
    rw [boxes_of_standard hload] at hbox
    cases hbox
  · rcases hmodified with ⟨modify, _, hmodify, _⟩
    rw [hmodifier] at hmodify
    cases hmodify

end Compiler
end Audience
