import Audience.Proofs.AscendingNumbers
import Audience.Proofs.ExactSums
import Audience.Selection

/-!
# The tables of a user

A database stores a user when the rows that refer to the user show what is known about the
user, one row for each item.  Their order does not matter, and all other rows may be
anything.

## Rows of items
-/

namespace Audience
namespace Sql

/-- The row has this number in a column. -/
def refers (key : String) (n : Int) (row : Row) : Bool :=
  (row key).number? = some (n : ℚ)

namespace Database

variable {α : Type}

/-- The rows of a table that refer to a number show some items, one row for each item. -/
def Shows (db : Database) (table key : String) (n : Int) (shows : Row -> α -> Prop)
    (items : List α) : Prop :=
  exists rows, List.Forall₂ shows rows items ∧
    rows.Perm ((db.rows table).filter (refers key n))

theorem map_eq_of_shows {β : Type} {shows : Row -> α -> Prop} {rows : List Row} {items : List α}
    (h : List.Forall₂ shows rows items) {f : Row -> β} {g : α -> β}
    (hfg : forall row item, shows row item -> f row = g item) :
    rows.map f = items.map g := by
  induction h with
  | nil =>
      rfl
  | cons hrow hrows ih =>
      rw [List.map_cons, List.map_cons, hfg _ _ hrow, ih]

private theorem any_eq_of_shows {shows : Row -> α -> Prop} {rows : List Row} {items : List α}
    (h : List.Forall₂ shows rows items) {p : Row -> Bool} {q : α -> Bool}
    (hpq : forall row item, item ∈ items -> shows row item -> p row = q item) :
    rows.any p = items.any q := by
  induction h with
  | nil =>
      rfl
  | @cons row item rows items hrow hrows ih =>
      have hfirst := hpq row item List.mem_cons_self hrow
      have hrest := ih fun row item hitem => hpq row item (List.mem_cons_of_mem _ hitem)
      rw [List.any_cons, List.any_cons, hfirst, hrest]

theorem Shows.any_eq {db : Database} {table key : String} {n : Int} {shows : Row -> α -> Prop}
    {items : List α} (h : db.Shows table key n shows items) {p : Row -> Bool} {q : α -> Bool}
    (hpq : forall row item, item ∈ items -> shows row item -> p row = q item) :
    ((db.rows table).any fun row => refers key n row && p row) = items.any q := by
  rcases h with ⟨rows, hrows, hperm⟩
  rw [← List.any_filter, ← hperm.any_eq, any_eq_of_shows hrows hpq]

theorem Shows.filter {db : Database} {table key : String} {n : Int} {shows : Row -> α -> Prop}
    {items : List α} (h : db.Shows table key n shows items) {p : Row -> Bool} {q : α -> Bool}
    (hpq : forall row item, shows row item -> p row = q item) :
    exists rows, List.Forall₂ shows rows (items.filter q) ∧
      rows.Perm ((db.rows table).filter fun row => refers key n row && p row) := by
  rcases h with ⟨rows, hrows, hperm⟩
  refine ⟨rows.filter p, ?_, ?_⟩
  · apply List.rel_filter _ hrows
    intro row item hrow
    simp only [hpq row item hrow]
  · have hfilter := hperm.filter p
    rw [List.filter_filter] at hfilter
    simpa only [Bool.and_comm] using hfilter

end Database

/-!
## Rows of a user
-/

def userCell (user : User) : Column -> Value
  | .language => (user.languageId.map .integer).getD .null
  | column => .text (user.column column)

structure ShowsUser (row : Row) (user : User) : Prop where
  id : row "id" = .integer user.id
  columns : forall column : Column, row column.sqlName = userCell user column
  createdAt : row "created_at" = .time user.createdAt

structure ShowsAction (row : Row) (action : Action) : Prop where
  id : row "id" = .integer action.id
  pageId : row "page_id" = .integer action.pageId
  createdAt : row "created_at" = .time action.createdAt

structure ShowsField (row : Row) (field : CustomField) : Prop where
  name : row "name" = .text field.name
  value : row "value" = .text field.value

structure ShowsOpening (row : Row) (opening : Opening) : Prop where
  id : row "id" = .integer opening.id
  createdAt : row "created_at" = .time opening.createdAt

structure ShowsOrder (row : Row) (order : Order) : Prop where
  id : row "id" = .integer order.id
  total : row "total" = .number order.total.quantity.value
  status : row "status" = .text order.status
  createdAt : row "created_at" = .time order.createdAt

/-!
## Stored users
-/

/-- The rows that refer to a user are the rows of this user, and the rows that refer to a
page with an action of the user are the rows of the tags of this page. -/
structure Database.Stores (db : Database) (user : User) : Prop where
  users : db.Shows "core_user" "id" user.id ShowsUser [user]
  actions : db.Shows "core_action" "user_id" user.id ShowsAction user.actions
  tags : forall action, action ∈ user.actions ->
    db.Shows "core_page_tags" "page_id" action.pageId
      (fun row tag => row "tag_id" = .integer tag) action.pageTagIds
  fields : db.Shows "core_userfield" "parent_id" user.id ShowsField user.fields
  phones : db.Shows "core_phone" "user_id" user.id
    (fun row phone => row "normalized_phone" = .text phone) user.phones
  openings : db.Shows "core_open" "user_id" user.id ShowsOpening user.openings
  orders : db.Shows "core_order" "user_id" user.id ShowsOrder user.orders

/-!
## The tables of one user
-/

def rowOf (cells : List (String × Value)) : Row :=
  fun name => (cells.lookup name).getD .null

def userRow (user : User) : Row :=
  rowOf (("id", .integer user.id) :: ("created_at", .time user.createdAt) ::
    [Column.country, .region, .state, .city, .zip, .source, .language, .subscriptionStatus].map
      fun column => (column.sqlName, userCell user column))

theorem showsUser_userRow (user : User) : ShowsUser (userRow user) user where
  id := rfl
  columns := by
    intro column
    cases column <;> rfl
  createdAt := rfl

def actionRow (user : Int) (action : Action) : Row :=
  rowOf [("id", .integer action.id), ("user_id", .integer user),
    ("page_id", .integer action.pageId), ("created_at", .time action.createdAt)]

def tagRow (page tag : Int) : Row :=
  rowOf [("page_id", .integer page), ("tag_id", .integer tag)]

def fieldRow (user : Int) (field : CustomField) : Row :=
  rowOf [("parent_id", .integer user), ("name", .text field.name), ("value", .text field.value)]

def phoneRow (user : Int) (phone : String) : Row :=
  rowOf [("user_id", .integer user), ("normalized_phone", .text phone)]

def openingRow (user : Int) (opening : Opening) : Row :=
  rowOf [("id", .integer opening.id), ("user_id", .integer user),
    ("created_at", .time opening.createdAt)]

def orderRow (user : Int) (order : Order) : Row :=
  rowOf [("id", .integer order.id), ("user_id", .integer user),
    ("total", .number order.total.quantity.value), ("status", .text order.status),
    ("created_at", .time order.createdAt)]

/-- The pages with an action of the user, each once, and their tags. -/
def pagesOf (user : User) : List (Int × List Int) :=
  (user.actions.map fun action => (action.pageId, action.pageTagIds)).dedup

def tablesOf (user : User) : Database where
  rows
    | "core_user" => [userRow user]
    | "core_action" => user.actions.map (actionRow user.id)
    | "core_page_tags" => (pagesOf user).flatMap fun page => page.2.map (tagRow page.1)
    | "core_userfield" => user.fields.map (fieldRow user.id)
    | "core_phone" => user.phones.map (phoneRow user.id)
    | "core_open" => user.openings.map (openingRow user.id)
    | "core_order" => user.orders.map (orderRow user.id)
    | _ => []

private theorem filter_tagRows {pages : List (Int × List Int)} (hpages : (pages.map Prod.fst).Nodup)
    {page : Int × List Int} (h : page ∈ pages) :
    (pages.flatMap fun page => page.2.map (tagRow page.1)).filter (refers "page_id" page.1) =
      page.2.map (tagRow page.1) := by
  have hrefers : forall other tag, refers "page_id" page.1 (tagRow other tag) =
      decide (other = page.1) := by
    intro other tag
    have hvalue : (tagRow other tag "page_id").number? = some (other : ℚ) := rfl
    rw [refers, hvalue]
    simp
  have hown : forall tags : List Int,
      (tags.map (tagRow page.1)).filter (refers "page_id" page.1) = tags.map (tagRow page.1) := by
    intro tags
    simp [List.filter_map, Function.comp_def, hrefers]
  have hforeign : forall other : Int × List Int, other.1 ≠ page.1 ->
      (other.2.map (tagRow other.1)).filter (refers "page_id" page.1) = [] := by
    intro other hne
    simp [List.filter_map, Function.comp_def, hrefers, hne]
  induction pages with
  | nil =>
      cases h
  | cons first pages ih =>
      rw [List.map_cons, List.nodup_cons] at hpages
      rw [List.flatMap_cons, List.filter_append]
      rcases List.mem_cons.mp h with rfl | hrest
      · have hothers : (pages.flatMap fun page => page.2.map (tagRow page.1)).filter
            (refers "page_id" page.1) = [] := by
          rw [List.filter_flatMap, List.flatMap_eq_nil_iff]
          intro other hother
          apply hforeign
          intro heq
          exact hpages.1 (heq ▸ List.mem_map_of_mem hother)
        rw [hown, hothers, List.append_nil]
      · have hne : first.1 ≠ page.1 := by
          intro heq
          exact hpages.1 (heq ▸ List.mem_map_of_mem hrest)
        rw [hforeign first hne, ih hpages.2 hrest, List.nil_append]

private theorem Database.shows_map {α : Type} {db : Database} {table key : String} {n : Int}
    {shows : Row -> α -> Prop} {items : List α} {made : α -> Row}
    (htable : db.rows table = items.map made)
    (hrefers : forall item, item ∈ items -> refers key n (made item) = true)
    (hshows : forall item, shows (made item) item) :
    db.Shows table key n shows items := by
  refine ⟨items.map made, ?_, ?_⟩
  · rw [List.forall₂_map_left_iff, List.forall₂_same]
    intro item hitem
    exact hshows item
  · rw [htable, List.filter_eq_self.mpr]
    intro row hrow
    rcases List.mem_map.mp hrow with ⟨item, hitem, rfl⟩
    exact hrefers item hitem

/-- A user whose actions on the same page show the same tags can be stored. -/
theorem stores_tablesOf {user : User}
    (h : forall action other, action ∈ user.actions -> other ∈ user.actions ->
      action.pageId = other.pageId -> action.pageTagIds = other.pageTagIds) :
    (tablesOf user).Stores user where
  users := by
    apply Database.shows_map rfl _ showsUser_userRow
    intro other hother
    rw [List.mem_singleton.mp hother]
    exact decide_eq_true rfl
  actions := Database.shows_map rfl (fun action haction => decide_eq_true rfl)
    fun action => ⟨rfl, rfl, rfl⟩
  tags := by
    intro action haction
    have hpage : (action.pageId, action.pageTagIds) ∈ pagesOf user :=
      List.mem_dedup.mpr (List.mem_map_of_mem haction)
    have hdistinct : ((pagesOf user).map Prod.fst).Nodup := by
      apply List.Nodup.map_on _ (List.nodup_dedup _)
      intro page hpage other hother heq
      rcases List.mem_map.mp (List.mem_dedup.mp hpage) with ⟨first, hfirst, rfl⟩
      rcases List.mem_map.mp (List.mem_dedup.mp hother) with ⟨second, hsecond, rfl⟩
      exact Prod.ext heq (h first second hfirst hsecond heq)
    refine ⟨_, ?_, .of_eq (filter_tagRows hdistinct hpage).symm⟩
    rw [List.forall₂_map_left_iff, List.forall₂_same]
    intro tag htag
    rfl
  fields := Database.shows_map rfl (fun field hfield => decide_eq_true rfl)
    fun field => ⟨rfl, rfl⟩
  phones := Database.shows_map rfl (fun phone hphone => decide_eq_true rfl) fun phone => rfl
  openings := Database.shows_map rfl (fun opening hopening => decide_eq_true rfl)
    fun opening => ⟨rfl, rfl⟩
  orders := Database.shows_map rfl (fun order horder => decide_eq_true rfl)
    fun order => ⟨rfl, rfl, rfl, rfl⟩

end Sql

/-!
## Consistent users
-/

/-- The ids of related rows are different, and totals of completed orders are exact. -/
structure User.IsConsistent (user : User) : Prop where
  actions : (user.actions.map (·.id)).Nodup
  openings : (user.openings.map (·.id)).Nodup
  orders : (user.orders.map (·.id)).Nodup
  totals : forall since, ExactSum
    ((user.completedOrders.filter fun order => notBefore since order.createdAt).map (·.total))

theorem value_distinctCount {α : Type} {items : List α} {id : α -> Int}
    (h : (items.map id).Nodup) (q : α -> Bool) :
    (distinctCount ((items.filter q).map id)).value = (items.filter q).length := by
  have hnodup : ((items.filter q).map id).Nodup := h.sublist (List.filter_sublist.map id)
  rw [distinctCount, Quantity.value_ofInt, Number.length_ascending hnodup, List.length_map]
  rfl

end Audience
