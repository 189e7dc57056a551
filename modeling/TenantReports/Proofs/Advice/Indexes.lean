import Mathlib.Data.List.Nodup
import TenantReports.Advice
import TenantReports.Proofs.Compile.Steps
import TenantReports.Proofs.Sql.Indexes
import TenantReports.Proofs.Validation.Build

/-!
# Suggested indexes

For every field that rows are found, joined, ordered or grouped by there is an index on its table,
unless the field is the tenant column itself. Suggestions that are the same are made once. What is
compared has the source in it, but the name of the index has not: it is the table and the columns
with underscores between them. So two sources may come to one name, when they are kept in one table
or when what one of them has in the name of its table the other one has in that of a column. A
source by itself never does.

## Main definitions

* `Layout.FindsBy`: a layout finds, joins, orders or groups rows by a field
* `IndexSuggestion.index`: the index that a suggestion is about
* `Catalog.Apart`: names of the tables of different sources cannot be taken for each other

## Main results

* `Layout.mem_indexSuggestions`: the indexes that are suggested
* `Layout.exists_columns_of_source_eq`, `Layout.eq_or_source_ne_of_name_eq`: the suggestions for one
  source are told apart by name
* `Layout.eq_of_lowered_name_eq`: where sources are apart, so are all of them
* `Layout.indexSuggestions_served`: every field has its index; where sources are apart, every index
  is made
* `exists_index_suggested_twice`: sources that are kept in one table
-/

namespace TenantReports

open Sql (Index createAll?)

/-! ## What is suggested -/

/-- Rows are found, joined, ordered or grouped by the field. -/
def Layout.FindsBy (l : Layout) (f : FieldRef) : Prop :=
  (∃ slot ∈ l.filters, slot.field = f) ∨ (∃ j ∈ l.sources.joins, f = j.left ∨ f = j.right) ∨
    (∃ entry ∈ l.sorting, entry.target = .field f) ∨ f ∈ l.aggregations.groupBy

theorem Layout.mem_indexedFields {l : Layout} {f : FieldRef} :
    f ∈ l.indexedFields ↔ l.FindsBy f := by
  simp only [indexedFields, FindsBy, List.mem_append, List.mem_map, List.mem_flatMap,
    List.mem_filterMap, List.mem_cons, List.not_mem_nil, or_false, or_assoc]
  refine or_congr_right (or_congr_right (or_congr_left (exists_congr fun entry => ?_)))
  refine and_congr_right fun _ => ?_
  cases entry.target <;> simp

/-- The index for a field is on its table, with the tenant column and that of the field. -/
theorem Catalog.indexFor?_eq_some {c : Catalog} {f : FieldRef} {i : IndexSuggestion} :
    c.indexFor? f = some i ↔ ∃ s field, c.source? f.source = some s ∧
      s.field? f.field = some field ∧ field.columnName ≠ s.tenantColumn ∧
      i = ⟨s.key, s.table, [s.tenantColumn, field.columnName]⟩ := by
  simp only [indexFor?, Option.bind_eq_bind, Option.bind_eq_some_iff]
  constructor
  · rintro ⟨s, hs, field, hfield, h⟩
    split at h
    · cases h
    · rename_i hcolumn
      exact ⟨s, field, hs, hfield, hcolumn, (Option.some.inj h).symm⟩
  · rintro ⟨s, field, hs, hfield, hcolumn, rfl⟩
    exact ⟨s, hs, field, hfield, if_neg hcolumn⟩

/-- What stands more than once is left out after its first place. -/
theorem nodup_eraseDups {α : Type} [BEq α] [LawfulBEq α] (as : List α) : as.eraseDups.Nodup := by
  match as with
  | [] => exact List.nodup_nil
  | a :: as =>
    rw [List.eraseDups_cons, List.nodup_cons]
    refine ⟨?_, nodup_eraseDups _⟩
    simp
termination_by as.length
decreasing_by
  rw [List.length_cons]
  exact Nat.lt_succ_of_le (List.length_filter_le _ _)

namespace Layout

variable {l : Layout} {c : Catalog}

/-- **The indexes that are suggested** are those for the fields by which the layout finds rows. -/
theorem mem_indexSuggestions {i : IndexSuggestion} :
    i ∈ l.indexSuggestions c ↔ ∃ f s field, l.FindsBy f ∧ c.source? f.source = some s ∧
      s.field? f.field = some field ∧ field.columnName ≠ s.tenantColumn ∧
      i = ⟨s.key, s.table, [s.tenantColumn, field.columnName]⟩ := by
  rw [indexSuggestions, List.mem_eraseDups, List.mem_filterMap]
  simp only [mem_indexedFields, Catalog.indexFor?_eq_some]
  constructor
  · rintro ⟨f, hf, s, field, h⟩
    exact ⟨f, s, field, hf, h⟩
  · rintro ⟨f, s, field, hf, h⟩
    exact ⟨f, hf, s, field, h⟩

theorem nodup_indexSuggestions : (l.indexSuggestions c).Nodup := nodup_eraseDups _

end Layout

/-! ## Names -/

/-- The index that a suggestion is about. -/
def IndexSuggestion.index (i : IndexSuggestion) : Index := ⟨i.name, i.table, i.columns⟩

/-- The name of an index on two columns. -/
theorem IndexSuggestion.toList_name (source table first second : String) :
    (IndexSuggestion.name ⟨source, table, [first, second]⟩).toList
      = "idx_".toList ++ ((table ++ "_").toList ++ ((first ++ "_").toList ++ second.toList)) := by
  simp only [name, String.intercalate_cons_cons, String.intercalate_singleton,
    String.toList_append, List.append_assoc]

/-- The text of a suggestion is that of its index. -/
theorem IndexSuggestion.map_sql (d : Sql.Dialect) (is : List IndexSuggestion) :
    is.map (·.sql d) = (is.map (·.index)).map (·.sql d) := by
  rw [List.map_map]
  rfl

/-- The texts of suggestions make all indexes exactly if none has the name of one that is there, or
of one before it. -/
theorem IndexSuggestion.createAll?_eq_append {d : Sql.Dialect} {same : Index → Index → Bool}
    {is : List IndexSuggestion} {made : List Index} :
    createAll? d same (is.map (·.sql d)) made = some (made ++ is.map (·.index)) ↔
      (∀ i ∈ made, ∀ j ∈ is, same i j.index = false) ∧
        is.Pairwise fun i j => same i.index j.index = false := by
  rw [map_sql, Sql.createAll?_eq_append, List.pairwise_map]
  simp only [List.forall_mem_map]

namespace Layout

variable {l : Layout} {c : Catalog} {i j : IndexSuggestion} (hi : i ∈ l.indexSuggestions c)
  (hj : j ∈ l.indexSuggestions c)

include hi hj

/-- **The suggestions for one source are told apart by the names of their columns**, also if
characters are not, as letters in different cases. -/
theorem exists_columns_of_source_eq (hsource : i.source = j.source) {g : Char → Char}
    (hname : i.name.toList.map g = j.name.toList.map g) :
    ∃ s ∈ c.sources, ∃ first ∈ s.fields, ∃ second ∈ s.fields,
      i = ⟨s.key, s.table, [s.tenantColumn, first.columnName]⟩ ∧
      j = ⟨s.key, s.table, [s.tenantColumn, second.columnName]⟩ ∧
      first.columnName.toList.map g = second.columnName.toList.map g := by
  obtain ⟨f, s, first, -, hs, hfirst, -, rfl⟩ := mem_indexSuggestions.mp hi
  obtain ⟨f', s', second, -, hs', hsecond, -, rfl⟩ := mem_indexSuggestions.mp hj
  have hkey : f.source = f'.source := by
    rw [← Catalog.key_of_source? hs, ← Catalog.key_of_source? hs']
    exact hsource
  obtain rfl : s = s' := Option.some.inj (by rw [← hs, ← hs', hkey])
  refine ⟨s, List.mem_of_find?_eq_some hs, first, List.mem_of_find?_eq_some hfirst, second,
    List.mem_of_find?_eq_some hsecond, rfl, rfl, ?_⟩
  rw [IndexSuggestion.toList_name, IndexSuggestion.toList_name] at hname
  simpa only [List.map_append, List.append_cancel_left_eq] using hname

/-- Suggestions of one name are the same, or they are for different sources. -/
theorem eq_or_source_ne_of_name_eq (hname : i.name = j.name) : i = j ∨ i.source ≠ j.source := by
  by_cases hsource : i.source = j.source
  · left
    have hsame : i.name.toList.map id = j.name.toList.map id := by rw [hname]
    obtain ⟨s, -, first, -, second, -, rfl, rfl, hcolumns⟩ :=
      exists_columns_of_source_eq hi hj hsource hsame
    rw [List.map_id, List.map_id, String.toList_inj] at hcolumns
    rw [hcolumns]
  · exact .inr hsource

end Layout

/-! ## Sources that are apart -/

/-- The tables of different sources have different names, of which none goes on after another one
with an underscore, and a table has no two columns of one name. The case of letters does not tell
names apart. -/
structure Catalog.Apart (c : Catalog) : Prop where
  tables : ∀ s ∈ c.sources, ∀ s' ∈ c.sources, s.key ≠ s'.key →
    ¬ (s.table ++ "_").toList.map Char.toLower <+: (s'.table ++ "_").toList.map Char.toLower
  columns : ∀ s ∈ c.sources, ∀ f ∈ s.fields, ∀ f' ∈ s.fields,
    lowerAscii f.columnName = lowerAscii f'.columnName → f.columnName = f'.columnName

/-- The sources of the built-in catalog are apart. -/
theorem Catalog.apart_builtin : builtin.Apart :=
  ⟨by decide +kernel, by decide +kernel⟩

namespace Layout

variable {l : Layout} {c : Catalog}

/-- **Where sources are apart, suggestions are told apart by name.** -/
theorem eq_of_lowered_name_eq (hapart : c.Apart) {i j : IndexSuggestion}
    (hi : i ∈ l.indexSuggestions c) (hj : j ∈ l.indexSuggestions c)
    (hname : lowerAscii i.name = lowerAscii j.name) : i = j := by
  rw [lowerAscii, lowerAscii, String.ofList_inj] at hname
  by_cases hsource : i.source = j.source
  · obtain ⟨s, hs, first, hfirst, second, hsecond, rfl, rfl, hcolumns⟩ :=
      exists_columns_of_source_eq hi hj hsource hname
    rw [hapart.columns s hs first hfirst second hsecond (congrArg String.ofList hcolumns)]
  · -- the table of one of them begins the name of the other
    obtain ⟨f, s, first, -, hs, -, -, rfl⟩ := mem_indexSuggestions.mp hi
    obtain ⟨f', s', second, -, hs', -, -, rfl⟩ := mem_indexSuggestions.mp hj
    have hs := List.mem_of_find?_eq_some hs
    have hs' := List.mem_of_find?_eq_some hs'
    rw [IndexSuggestion.toList_name, IndexSuggestion.toList_name] at hname
    simp only [List.map_append, List.append_cancel_left_eq] at hname
    rcases List.prefix_or_prefix_of_prefix ⟨_, hname⟩ (List.prefix_append _ _) with h | h
    · exact absurd h (hapart.tables s hs s' hs' hsource)
    · exact absurd h (hapart.tables s' hs' s hs (Ne.symm hsource))

/-- **Every field by which a layout finds rows has its index**, and there are no others. The
suggestions for one source have different names. Where sources are apart, all suggestions have, no
two are on the same columns of one table, and their texts make every index in a database that has
none of their names and that tells names of different letters apart. -/
theorem indexSuggestions_served (l : Layout) (c : Catalog) :
    (∀ i, i ∈ l.indexSuggestions c ↔ ∃ f s field, l.FindsBy f ∧ c.source? f.source = some s ∧
      s.field? f.field = some field ∧ field.columnName ≠ s.tenantColumn ∧
      i = ⟨s.key, s.table, [s.tenantColumn, field.columnName]⟩) ∧
      (∀ i ∈ l.indexSuggestions c, ∀ j ∈ l.indexSuggestions c, i.name = j.name →
        i = j ∨ i.source ≠ j.source) ∧
      (c.Apart →
        ((l.indexSuggestions c).map (·.name)).Nodup ∧
          (l.indexSuggestions c).Pairwise (fun i j => (i.table, i.columns) ≠ (j.table, j.columns)) ∧
          ∀ (d : Sql.Dialect) (same : Index → Index → Bool) (made : List Index),
            (∀ i j, same i j = true → lowerAscii i.name = lowerAscii j.name) →
            (∀ i ∈ made, ∀ j ∈ l.indexSuggestions c, same i j.index = false) →
              createAll? d same ((l.indexSuggestions c).map (·.sql d)) made
                = some (made ++ (l.indexSuggestions c).map (·.index))) := by
  refine ⟨fun i => mem_indexSuggestions, fun i hi j hj => eq_or_source_ne_of_name_eq hi hj,
    fun hapart => ?_⟩
  have hlowered : (l.indexSuggestions c).Pairwise
      fun i j => lowerAscii i.name ≠ lowerAscii j.name := by
    refine nodup_indexSuggestions.pairwise_of_forall_ne fun i hi j hj hne hname => ?_
    exact hne (eq_of_lowered_name_eq hapart hi hj hname)
  refine ⟨?_, ?_, fun d same made hsame hmade => ?_⟩
  · refine List.pairwise_map.mpr (hlowered.imp fun hne hname => ?_)
    exact hne (congrArg lowerAscii hname)
  · refine hlowered.imp fun {i j} hne hplace => ?_
    obtain ⟨htable, hcolumns⟩ := Prod.mk.inj hplace
    exact hne (by rw [IndexSuggestion.name, htable, hcolumns, IndexSuggestion.name])
  · refine IndexSuggestion.createAll?_eq_append.mpr ⟨hmade, hlowered.imp fun {i j} hne => ?_⟩
    exact Bool.eq_false_iff.mpr fun h => hne (hsame i.index j.index h)

end Layout

/-- The indexes for a shop are made where names are looked up in any case. -/
theorem indexSuggestions_served_salesLayout :
    shop.Apart ∧ ((salesLayout.indexSuggestions shop).map (·.name)).Nodup ∧
      createAll? .mysql (fun i j => lowerAscii i.name == lowerAscii j.name)
          ((salesLayout.indexSuggestions shop).map (·.sql .mysql)) []
        = some ((salesLayout.indexSuggestions shop).map (·.index)) := by
  have hapart : shop.Apart := ⟨by decide, by decide⟩
  obtain ⟨-, -, hserved⟩ := Layout.indexSuggestions_served salesLayout shop
  obtain ⟨hnames, -, hmade⟩ := hserved hapart
  exact ⟨hapart, hnames, hmade .mysql _ [] (fun _ _ => beq_iff_eq.mp) (List.forall_mem_nil _)⟩

/-! ## One table for two sources

Orders and refunds are kept in one table of bookings, and both are looked for by their status. -/

/-- A catalog with two sources of one table. -/
def bookingsToml : String :=
  "[sources.orders]
table = 'bookings'
model = 'Order'
fields.number.type = 'number'
fields.status = \x7b type = 'text', filterable = true \x7d
[sources.refunds]
table = 'bookings'
model = 'Refund'
fields.order.type = 'number'
fields.status = \x7b type = 'text', filterable = true \x7d"

/-- The catalog of `bookingsToml`. -/
def bookings : Catalog where
  sources := [
    { key := "orders", label := "orders", category := "", table := "bookings",
      model := "Order", tenantColumn := defaultTenantColumn,
      fields := [
        { key := "number", label := "number", type := .number },
        { key := "status", label := "status", type := .text, filterable := true }],
      relations := [] },
    { key := "refunds", label := "refunds", category := "", table := "bookings",
      model := "Refund", tenantColumn := defaultTenantColumn,
      fields := [
        { key := "order", label := "order", type := .number },
        { key := "status", label := "status", type := .text, filterable := true }],
      relations := [] }]

/-- Orders with their refunds, of some status each. -/
def bookingsDraft : Draft where
  sources := .object [
    ("joins", .array [.object [
      ("on", .array [.string "orders.number", .string "refunds.order"]),
      ("table", .string "refunds")]]),
    ("primary", .string "orders")]
  columns := .array [
    .object [("field", .string "orders.number"), ("label", .string "Number")]]
  filters := .array [
    .object [("field", .string "orders.status"), ("type", .string "text")],
    .object [("field", .string "refunds.status"), ("type", .string "text")]]

/-- The layout of `bookingsDraft`. -/
def bookingsLayout : Layout where
  sources := ⟨"orders", [⟨"refunds", .inner, ⟨"orders", "number"⟩, ⟨"refunds", "order"⟩⟩]⟩
  columns := [⟨.field ⟨"orders", "number"⟩, "Number", .number, none, "orders_number"⟩]
  filters := [⟨⟨"orders", "status"⟩, "status", .text, false, []⟩,
    ⟨⟨"refunds", "status"⟩, "status", .text, false, []⟩]
  aggregations := ⟨[], []⟩
  sorting := []

theorem build_bookingsDraft :
    (⟨bookings, {}⟩ : Validator).build bookingsDraft false = .ok bookingsLayout := rfl

-- the characters of the text are taken out first, so that the reader runs over a list
set_option maxRecDepth 4000 in
/-- **One index may be suggested twice.** The catalog loads and the draft is built. No database that
has one index of a name makes all the suggested ones: the text of the second one does nothing, or it
fails where nothing can be left out. -/
theorem exists_index_suggested_twice :
    Catalog.ofToml bookingsToml = .ok bookings ∧
      (⟨bookings, {}⟩ : Validator).build bookingsDraft false = .ok bookingsLayout ∧
      (∃ i ∈ bookingsLayout.indexSuggestions bookings,
        ∃ j ∈ bookingsLayout.indexSuggestions bookings,
          i ≠ j ∧ i.name = j.name ∧ i.table = j.table ∧ i.columns = j.columns) ∧
      ∀ same : Index → Index → Bool, (∀ i, same i i = true) →
        createAll? .mysql same ((bookingsLayout.indexSuggestions bookings).map (·.sql .mysql)) []
          = none ∧
        ∀ d, createAll? d same ((bookingsLayout.indexSuggestions bookings).map (·.sql d)) []
          ≠ some ((bookingsLayout.indexSuggestions bookings).map (·.index)) := by
  have hchars : bookingsToml.toList = _ := String.toList_ofList
  have hload : Catalog.ofToml bookingsToml = .ok bookings := by
    rw [Catalog.ofToml, Toml.parse?, hchars]
    decide +kernel
  have hsuggested : bookingsLayout.indexSuggestions bookings = [
      ⟨"orders", "bookings", ["organization_id", "status"]⟩,
      ⟨"refunds", "bookings", ["organization_id", "status"]⟩,
      ⟨"orders", "bookings", ["organization_id", "number"]⟩,
      ⟨"refunds", "bookings", ["organization_id", "order"]⟩] := by decide +kernel
  refine ⟨hload, build_bookingsDraft, ?_, fun same hsame => ⟨?_, fun d hall => ?_⟩⟩
  · rw [hsuggested]
    exact ⟨_, List.mem_cons_self, _, List.mem_cons_of_mem _ List.mem_cons_self, by decide, rfl, rfl,
      rfl⟩
  · -- the index of the refunds is that of the orders, which has just been made
    have hagain : Sql.create? .mysql same
        ((IndexSuggestion.mk "refunds" "bookings" ["organization_id", "status"]).index.sql .mysql)
        [(IndexSuggestion.mk "orders" "bookings" ["organization_id", "status"]).index] = none :=
      Sql.create?_of_there List.mem_cons_self (hsame _)
    rw [hsuggested, IndexSuggestion.map_sql]
    simp only [List.map_cons, createAll?]
    rw [Sql.create?_of_new (List.forall_mem_nil _), Option.bind_some, List.nil_append, hagain]
    rfl
  · rw [hsuggested] at hall
    have hpairwise := (IndexSuggestion.createAll?_eq_append.mp hall).2
    have hfirst := (List.pairwise_cons.mp hpairwise).1 _ List.mem_cons_self
    exact Bool.false_ne_true (hfirst.symm.trans (hsame _))

end TenantReports
