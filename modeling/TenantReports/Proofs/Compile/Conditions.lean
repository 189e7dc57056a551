import TenantReports.Catalog.Reader
import TenantReports.Proofs.Compile.Totality

/-!
# Conditions that relations supply

A join that states no condition takes it from a relation between its table and a source before it.
A relation is declared with two names of fields, which nothing checks: neither the reader of
catalogs nor the validator looks them up. So such a condition is over sources in scope, but its
fields may be unknown to the very catalog that the relation stands in, and then the layout that was
built does not compile. Nothing else keeps a built layout from compiling.

## Main definitions

* `Relation.Declared`: the fields that a relation names exist
* `Catalog.Links`: a relation between a table and one of some sources, in either direction
* `Join.Declared`: both fields of a condition exist

## Main results

* `links_of_unstated`: a condition that is not stated is that of a relation
* `compile_iff_declared`: a layout that is built compiles exactly if the conditions that relations
  supply are over declared fields
* `exists_undeclared_condition`: there is a catalog that loads, and a layout built over it, of
  which this fails
-/

namespace TenantReports

variable {c : Catalog} {v : Validator} {d : Draft} {l : Layout} {earlier after : List String}
  {join : Join}

/-- The fields that a relation of a source names are declared. -/
structure Relation.Declared (r : Relation) (c : Catalog) (source : String) : Prop where
  localField : ∀ f, r.localField = some f → (c.field? source f).isSome = true
  foreignField : ∀ f, r.foreignField = some f → (c.field? r.target f).isSome = true

/-- Both fields of a join's condition are declared. -/
def Join.Declared (j : Join) (c : Catalog) : Prop :=
  (∃ field, c.refField? j.left = some field) ∧ ∃ field, c.refField? j.right = some field

/-- A relation of a source, between the table and one of the earlier sources. -/
structure Catalog.Links (c : Catalog) (earlier : List String) (table source : String)
    (r : Relation) : Prop where
  mem : r ∈ c.relations source
  ends : source ∈ earlier ∧ r.target = table ∨ source = table ∧ r.target ∈ earlier

/-- A relation that names both its fields is complete exactly if its sources are, and the fields
are declared. -/
theorem Catalog.isValidRelation_iff {source key : String} {r : Relation}
    (h : (c.source? source).bind (·.relation? key) = some r) :
    c.isValidRelation source key = true ↔
      c.isValidSource source = true ∧ c.isValidSource r.target = true ∧ r.Declared c source := by
  rw [isValidRelation, h]
  simp only [Bool.and_eq_true, Option.all_eq_true, and_assoc]
  refine and_congr_right fun _ => and_congr_right fun _ => ?_
  exact ⟨fun ⟨hl, hf⟩ => ⟨hl, hf⟩, fun hr => ⟨hr.localField, hr.foreignField⟩⟩

/-! ## Conditions that are not stated -/

/-- A relation that names both its fields has a condition over them. -/
theorem Relation.fieldsFrom?_eq_some {r : Relation} {source : String} {left right : FieldRef} :
    r.fieldsFrom? source = some (left, right) ↔
      ∃ f g, r.localField = some f ∧ r.foreignField = some g ∧
        left = ⟨source, f⟩ ∧ right = ⟨r.target, g⟩ := by
  unfold Relation.fieldsFrom?
  cases hl : r.localField <;> cases hr : r.foreignField <;> simp [eq_comm]

/-- **A condition that is supplied** is that of a relation which links the table to an earlier
source. -/
theorem links_of_relationCondition? {table : String} {left right : FieldRef}
    (h : relationCondition? c earlier table = some (left, right)) :
    ∃ source r, c.Links earlier table source r ∧ r.fieldsFrom? source = some (left, right) := by
  have hmem := List.mem_of_mem_head? (Option.mem_def.mpr h)
  rcases List.mem_append.mp hmem with hforth | hback
  -- a relation of an earlier source to the table
  · obtain ⟨source, hsource, hfields⟩ := List.mem_flatMap.mp hforth
    obtain ⟨r, hr, hfields⟩ := List.mem_filterMap.mp hfields
    obtain ⟨hr, htarget⟩ := List.mem_filter.mp hr
    exact ⟨source, r, ⟨hr, .inl ⟨hsource, by simpa using htarget⟩⟩, hfields⟩
  -- or one of the table to an earlier source
  · obtain ⟨r, hr, hfields⟩ := List.mem_filterMap.mp hback
    obtain ⟨hr, htarget⟩ := List.mem_filter.mp hr
    exact ⟨table, r, ⟨hr, .inr ⟨rfl, by simpa using htarget⟩⟩, hfields⟩

/-- A join that states no condition takes that of a relation. -/
theorem links_of_unstated {i : Nat} {item : Json}
    (h : checkJoin c i item earlier = (.ok join, after)) (hon : item.states "on" = false) :
    ∃ source r, c.Links earlier join.table source r ∧
      r.fieldsFrom? source = some (join.left, join.right) := by
  obtain ⟨entries, rfl, -, -, -, -, -, hcondition⟩ := checkJoin_ok h
  rw [given?_eq_none_iff.mpr hon] at hcondition
  apply links_of_relationCondition?
  -- the condition is the one found, since none would be a problem
  cases hfound : relationCondition? c earlier join.table with
  | none => simp [joinCondition, hfound, Checked.ofOption] at hcondition
  | some condition =>
    simp only [joinCondition, hfound, Checked.ofOption, Checked.ok.injEq] at hcondition
    rw [hcondition]

/-- The two ends of a relation that links a table to earlier sources are in scope with it. -/
theorem Catalog.Links.mem_scope {table source : String} {r : Relation}
    (h : c.Links earlier table source r) :
    source ∈ earlier ++ [table] ∧ r.target ∈ earlier ++ [table] := by
  rcases h.ends with ⟨hsource, rfl⟩ | ⟨rfl, htarget⟩
  · exact ⟨List.mem_append_left _ hsource, by simp⟩
  · exact ⟨by simp, List.mem_append_left _ htarget⟩

/-- The condition of a join that passes is over the sources up to the join. Its fields are
declared, unless a relation that names unknown fields has supplied it. -/
theorem declared_or_links {i : Nat} {item : Json}
    (h : checkJoin c i item earlier = (.ok join, after)) :
    join.left.source ∈ after ∧ join.right.source ∈ after ∧
      (join.Declared c ∨ item.states "on" = false ∧
        ∃ source r, c.Links earlier join.table source r ∧
          r.fieldsFrom? source = some (join.left, join.right) ∧ ¬ r.Declared c source) := by
  cases hon : item.states "on" with
  | true =>
    -- a stated condition was resolved
    obtain ⟨⟨hleft, hl⟩, hright, hr⟩ := resolves_of_stated h hon
    exact ⟨hleft, hright, .inl ⟨hl, hr⟩⟩
  | false =>
    obtain ⟨-, -, -, -, -, rfl, -⟩ := checkJoin_ok h
    obtain ⟨source, r, hlinks, hfields⟩ := links_of_unstated h hon
    obtain ⟨f, g, hf, hg, hleft, hright⟩ := Relation.fieldsFrom?_eq_some.mp hfields
    obtain ⟨hsource, htarget⟩ := hlinks.mem_scope
    refine ⟨by rwa [hleft], by rwa [hright], ?_⟩
    by_cases hdeclared : r.Declared c source
    · left
      constructor
      · rw [hleft]
        exact Option.isSome_iff_exists.mp (hdeclared.localField f hf)
      · rw [hright]
        exact Option.isSome_iff_exists.mp (hdeclared.foreignField g hg)
    · exact .inr ⟨rfl, source, r, hlinks, hfields, hdeclared⟩

/-! ## Joins that do not compile -/

namespace Catalog

variable {scope : List String} {tenant : Int}

/-- A field in scope fails to compile only if it is not declared. -/
theorem fieldExpr_eq_error {f : FieldRef} {e : CompileError} (hscope : f.source ∈ scope)
    (h : c.fieldExpr scope f = .error e) :
    c.refField? f = none ∧ e = .unknownField f.fullName := by
  unfold fieldExpr at h
  cases hfield : c.refField? f with
  | none =>
    simp only [List.contains_eq_mem, hscope, decide_true, Bool.not_true, Bool.false_eq_true,
      if_false, hfield, Except.error.injEq] at h
    exact ⟨rfl, h.symm⟩
  | some field => simp [hscope, hfield] at h

/-- Joins that compile have declared conditions. -/
theorem declared_of_compileJoins {joins : List Join} {clauses : List Sql.JoinClause}
    {after : List String} (h : c.compileJoins tenant scope joins = .ok (clauses, after)) :
    ∀ j ∈ joins, j.Declared c := by
  induction joins generalizing scope clauses with
  | nil => simp
  | cons j joins ih =>
    obtain ⟨clause, middle, rest, hj, hrest, -⟩ := compileJoins_cons_eq_ok.mp h
    obtain ⟨s, left, right, -, -, hleft, hright, -⟩ := compileJoin_eq_ok.mp hj
    obtain ⟨-, field, hfield, -⟩ := fieldExpr_eq_ok.mp hleft
    obtain ⟨-, field', hfield', -⟩ := fieldExpr_eq_ok.mp hright
    intro j' hj'
    rcases List.mem_cons.mp hj' with rfl | hj'
    · exact ⟨⟨field, hfield⟩, field', hfield'⟩
    · exact ih hrest j' hj'

/-- A join of a complete source, with a condition over sources in scope, fails only on a field
that is not declared. -/
theorem compileJoin_eq_error {j : Join} {e : CompileError}
    (hvalid : c.isValidSource j.table = true)
    (hleft : j.left.source ∈ scope ++ [j.table]) (hright : j.right.source ∈ scope ++ [j.table])
    (h : c.compileJoin tenant scope j = .error e) :
    ∃ f ∈ [j.left, j.right], c.refField? f = none ∧ e = .unknownField f.fullName := by
  obtain ⟨s, hs⟩ := exists_usableSource hvalid
  have hkey : s.key = j.table := key_of_source? (usableSource_eq_ok.mp hs).1
  rw [← hkey] at hleft hright
  simp only [compileJoin, hs] at h
  cases hl : c.fieldExpr (scope ++ [s.key]) j.left with
  | error e' =>
    obtain rfl : e' = e := by simpa [hl, bind, Except.bind] using h
    exact ⟨j.left, by simp, fieldExpr_eq_error hleft hl⟩
  | ok left =>
    cases hr : c.fieldExpr (scope ++ [s.key]) j.right with
    | error e' =>
      obtain rfl : e' = e := by simpa [hl, hr, bind, Except.bind] using h
      exact ⟨j.right, by simp, fieldExpr_eq_error hright hr⟩
    | ok right => simp [hl, hr, bind, Except.bind, pure, Except.pure] at h

/-- So do several joins, each with a condition over the sources up to it. -/
theorem compileJoins_eq_error {joins : List Join} {e : CompileError}
    (hvalid : ∀ j ∈ joins, c.isValidSource j.table = true)
    (hscope : ∀ n j, joins[n]? = some j →
      j.left.source ∈ scope ++ (joins.take (n + 1)).map (·.table) ∧
        j.right.source ∈ scope ++ (joins.take (n + 1)).map (·.table))
    (h : c.compileJoins tenant scope joins = .error e) :
    ∃ j ∈ joins, ∃ f ∈ [j.left, j.right], c.refField? f = none ∧ e = .unknownField f.fullName := by
  -- over the joins, with the scope that each leaves behind
  induction joins generalizing scope with
  | nil => cases h
  | cons j joins ih =>
    have hfirst := hscope 0 j rfl
    cases hj : c.compileJoin tenant scope j with
    | error e' =>
      obtain rfl : e' = e := by simpa [compileJoins, hj, bind, Except.bind] using h
      obtain ⟨f, hf, hfield⟩ :=
        compileJoin_eq_error (hvalid j List.mem_cons_self) hfirst.1 hfirst.2 hj
      exact ⟨j, List.mem_cons_self, f, hf, hfield⟩
    | ok result =>
      obtain ⟨clause, middle⟩ := result
      obtain ⟨s, -, -, hs, rfl, -⟩ := compileJoin_eq_ok.mp hj
      have hkey : s.key = j.table := key_of_source? (usableSource_eq_ok.mp hs).1
      -- the first join went well, so a later one fails
      have hrest : c.compileJoins tenant (scope ++ [s.key]) joins = .error e := by
        cases hrest : c.compileJoins tenant (scope ++ [s.key]) joins with
        | error e' => simpa [compileJoins, hj, hrest, bind, Except.bind] using h
        | ok _ => simp [compileJoins, hj, hrest, bind, Except.bind, pure, Except.pure] at h
      obtain ⟨j', hj', hfound⟩ := ih
        (fun j' hj' => hvalid j' (List.mem_cons_of_mem j hj'))
        (fun n j' hj' => by simpa [hkey] using hscope (n + 1) j' hj') hrest
      exact ⟨j', List.mem_cons_of_mem j hj', hfound⟩

end Catalog

/-! ## Layouts that are built -/

namespace Validator.Passed

/-- The condition of a join is over the sources up to the join. Its fields are declared, unless a
relation that names unknown fields has supplied it. -/
theorem condition_declared_or_links (h : v.Passed d l) {n : Nat}
    (hjoin : l.sources.joins[n]? = some join) :
    join.left.source ∈ l.sources.scopeAfter (n + 1) ∧
      join.right.source ∈ l.sources.scopeAfter (n + 1) ∧
      (join.Declared v.catalog ∨ ∃ item, d.joinItems[n]? = some item ∧
        item.states "on" = false ∧
          ∃ source r, v.catalog.Links (l.sources.scopeAfter n) join.table source r ∧
            r.fieldsFrom? source = some (join.left, join.right) ∧
              ¬ r.Declared v.catalog source) := by
  obtain ⟨item, hitem, hcheck⟩ := h.check_of_join hjoin
  obtain ⟨hleft, hright, hcondition⟩ := declared_or_links hcheck
  refine ⟨hleft, hright, ?_⟩
  rcases hcondition with hdeclared | hlinks
  · exact .inl hdeclared
  · exact .inr ⟨item, hitem, hlinks⟩

/-- A layout whose conditions are over declared fields compiles. -/
theorem exists_compile (h : v.Passed d l) (hdeclared : ∀ j ∈ l.sources.joins, j.Declared v.catalog)
    (tenant : Int) : ∃ q, l.compile v.catalog tenant = .ok q := by
  obtain ⟨q, hq, -⟩ := h.admissible.exists_compile (fun n j hj => by
    obtain ⟨hleft, hright, -⟩ := h.condition_declared_or_links hj
    obtain ⟨hl, hr⟩ := hdeclared j (List.mem_of_getElem? hj)
    exact ⟨⟨hleft, hl⟩, hright, hr⟩) tenant
  exact ⟨q, hq⟩

/-- A layout that does not compile has a condition over a field that is not declared. -/
theorem undeclared_of_compile_error (h : v.Passed d l) {tenant : Int} {e : CompileError}
    (herror : l.compile v.catalog tenant = .error e) :
    ∃ join ∈ l.sources.joins, ∃ f ∈ [join.left, join.right],
      v.catalog.refField? f = none ∧ e = .unknownField f.fullName := by
  obtain ⟨primary, hprimary⟩ := Catalog.exists_usableSource h.primary_valid
  have hkey : primary.key = l.sources.primary :=
    Catalog.key_of_source? (Catalog.usableSource_eq_ok.mp hprimary).1
  cases hjoins : v.catalog.compileJoins tenant [primary.key] l.sources.joins with
  | error e' =>
    obtain rfl : e' = e := by
      simpa [Layout.compile, hprimary, hjoins, bind, Except.bind] using herror
    refine Catalog.compileJoins_eq_error (fun j hj => ?_) (fun n j hj => ?_) hjoins
    · exact h.sources_valid j.table (List.mem_cons_of_mem _ (List.mem_map_of_mem hj))
    · obtain ⟨hleft, hright, -⟩ := h.condition_declared_or_links hj
      rw [hkey]
      exact ⟨hleft, hright⟩
  | ok result =>
    -- joins that compile have declared conditions, and then all compiles
    obtain ⟨clauses, after⟩ := result
    obtain ⟨q, hq⟩ := h.exists_compile (Catalog.declared_of_compileJoins hjoins) tenant
    rw [hq] at herror
    cases herror

end Validator.Passed

/-- **A layout that is built compiles exactly if its join conditions are over declared fields**, and
otherwise fails on such a field. Every condition is over the sources up to its join; the fields are
declared if the draft states the condition, and if the relation that supplies it names declared
fields. -/
theorem compile_iff_declared {full : Bool} (hbuild : v.build d full = .ok l) :
    (∀ n join, l.sources.joins[n]? = some join →
      join.left.source ∈ l.sources.scopeAfter (n + 1) ∧
        join.right.source ∈ l.sources.scopeAfter (n + 1) ∧
        (join.Declared v.catalog ∨ ∃ item, d.joinItems[n]? = some item ∧
          item.states "on" = false ∧
            ∃ source r, v.catalog.Links (l.sources.scopeAfter n) join.table source r ∧
              r.fieldsFrom? source = some (join.left, join.right) ∧
                ¬ r.Declared v.catalog source)) ∧
      ∀ tenant,
        ((∃ q, l.compile v.catalog tenant = .ok q) ↔
          ∀ join ∈ l.sources.joins, join.Declared v.catalog) ∧
        ∀ e, l.compile v.catalog tenant = .error e →
          ∃ join ∈ l.sources.joins, ∃ f ∈ [join.left, join.right],
            v.catalog.refField? f = none ∧ e = .unknownField f.fullName := by
  have hpassed := Validator.passed_of_build hbuild
  refine ⟨fun n join hjoin => hpassed.condition_declared_or_links hjoin, fun tenant => ?_⟩
  refine ⟨⟨?_, fun hdeclared => hpassed.exists_compile hdeclared tenant⟩,
    fun e he => hpassed.undeclared_of_compile_error he⟩
  rintro ⟨q, hq⟩
  obtain ⟨primary, joins, -, -, -, -, hjoins, -⟩ := Layout.compile_eq_ok.mp hq
  exact Catalog.declared_of_compileJoins hjoins

/-! ## A relation to no field

Orders are related to customers by a field that customers do not have. -/

/-- A catalog whose one relation names an unknown field of its target. -/
def looseToml : String :=
  "[sources.customers]
table = 'people'
model = 'Customer'
fields.id.type = 'number'
[sources.orders]
table = 'orders'
model = 'Order'
fields.customer.type = 'number'
[sources.orders.relations.by]
target = 'customers'
local_field = 'customer'
foreign_field = 'number'"

/-- The catalog of `looseToml`. -/
def looseShop : Catalog where
  sources := [
    { key := "customers", label := "customers", category := "", table := "people",
      model := "Customer", tenantColumn := defaultTenantColumn,
      fields := [{ key := "id", label := "id", type := .number }], relations := [] },
    { key := "orders", label := "orders", category := "", table := "orders",
      model := "Order", tenantColumn := defaultTenantColumn,
      fields := [{ key := "customer", label := "customer", type := .number }],
      relations := [
        { key := "by", target := "customers", localField := some "customer",
          foreignField := some "number" }] }]

/-- Orders with their customers; the join states no condition. -/
def looseDraft : Draft where
  sources := .object [
    ("joins", .array [.object [("table", .string "customers")]]),
    ("primary", .string "orders")]
  columns := .array [
    .object [("field", .string "customers.id"), ("label", .string "Customer")]]

/-- The layout of `looseDraft`. -/
def looseLayout : Layout where
  sources := ⟨"orders", [⟨"customers", .inner, ⟨"orders", "customer"⟩, ⟨"customers", "number"⟩⟩]⟩
  columns := [⟨.field ⟨"customers", "id"⟩, "Customer", .number, none, "customers_id"⟩]
  filters := []
  aggregations := ⟨[], []⟩
  sorting := []

theorem build_looseDraft :
    (⟨looseShop, {}⟩ : Validator).build looseDraft false = .ok looseLayout := rfl

theorem not_compile_looseLayout :
    (⟨looseShop, {}⟩ : Validator).build looseDraft false = .ok looseLayout ∧
      ¬ ∃ q, looseLayout.compile looseShop 1 = .ok q := by
  refine ⟨build_looseDraft, fun hcompiles => ?_⟩
  obtain ⟨-, field, hfield⟩ :=
    ((compile_iff_declared build_looseDraft).2 1).1.mp hcompiles _ List.mem_cons_self
  cases hfield

-- the characters of the text are taken out first, so that the reader runs over a list
set_option maxRecDepth 4000 in
/-- **A built layout need not compile.** The catalog loads and the draft is built, although the
relation is not a complete one; the condition that it supplies is over an unknown field. -/
theorem exists_undeclared_condition :
    Catalog.ofToml looseToml = .ok looseShop ∧
      (⟨looseShop, {}⟩ : Validator).build looseDraft false = .ok looseLayout ∧
      looseShop.isValidRelation "orders" "by" = false ∧
      (∃ join ∈ looseLayout.sources.joins, ¬ join.Declared looseShop) ∧
      looseLayout.compile looseShop 1 = .error (.unknownField "customers.number") := by
  have hchars : looseToml.toList = _ := String.toList_ofList
  have hload : Catalog.ofToml looseToml = .ok looseShop := by
    rw [Catalog.ofToml, Toml.parse?, hchars]
    decide +kernel
  refine ⟨hload, build_looseDraft, by decide, ⟨_, List.mem_cons_self, ?_⟩, rfl⟩
  rintro ⟨-, field, hfield⟩
  cases hfield

end TenantReports
