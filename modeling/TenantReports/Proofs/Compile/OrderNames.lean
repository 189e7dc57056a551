import TenantReports.Proofs.Compile.Selection

/-!
# Names to order by

A sort entry by the name of a column is written as the bare name, and the database looks it up
among the names of the result. SQLite compares them without regard to the case of ASCII letters and
takes the first that fits, so the entry orders by its own column exactly if no column before it has
a name of the same letters. Validation tells names apart by their case too, and lets such names
through.

## Main definitions

* `Sql.Query.resultColumn?`: the item of the select list that a bare name of the order means

## Main results

* `Layout.orders_by_first_of_letters`: which column a sort entry by a name orders by
* `exists_ordered_by_other_column`: a layout that is built orders by another one
-/

namespace TenantReports

/-- The item of the select list that a bare name of the order means to SQLite, by its place: the
first whose name is that name in some case of ASCII letters. -/
def Sql.Query.resultColumn? (q : Sql.Query) (name : String) : Option Nat :=
  q.select.findIdx? fun item => item.called.any fun called => lowerAscii called == lowerAscii name

/-- The select list has the names of the columns, so a bare name means the first column whose name
has its letters. -/
theorem Sql.Query.resultColumn?_eq {columns : List Column} {q : Sql.Query}
    (hselect : List.Forall₂ (fun col (item : Sql.SelectItem) => item.called = some col.name)
      columns q.select) (name : String) :
    q.resultColumn? name
      = columns.findIdx? fun col => lowerAscii col.name == lowerAscii name := by
  unfold resultColumn?
  generalize q.select = select at hselect
  induction hselect with
  | nil => rfl
  | cons hname _ ih =>
    rw [List.findIdx?_cons, List.findIdx?_cons, ih, hname, Option.any_some]

/-! ## Layouts -/

/-- **A sort entry by the name of a column is written as that name, and SQLite takes it to mean the
first column whose name has the same letters.** That is the column itself exactly if no column
before it has a name that differs from its own at most in the case of ASCII letters. -/
theorem Layout.orders_by_first_of_letters {l : Layout} {c : Catalog} {tenant : Int}
    {q : CompiledQuery} (h : l.compile c tenant = .ok q) {i k : Nat} {entry : SortEntry}
    {col : Column} (hentry : l.sorting[i]? = some entry) (hcol : l.columns[k]? = some col)
    (htarget : entry.target = .output col.name) :
    q.query.orderBy[i]? = some ⟨.column none col.name, entry.direction⟩ ∧
      ∃ j meant item, q.query.resultColumn? col.name = some j ∧ j ≤ k ∧
        l.columns[j]? = some meant ∧ q.query.select[j]? = some item ∧
        item.called = some meant.name ∧ c.Selects meant.value item.expr ∧
        lowerAscii meant.name = lowerAscii col.name ∧
        (j = k ↔ ∀ n < k, ∀ earlier, l.columns[n]? = some earlier →
          lowerAscii earlier.name ≠ lowerAscii col.name) := by
  obtain ⟨primary, joins, select, groupBy, orderBy, -, -, hselect, -, horderBy, -, -, hquery⟩ :=
    compile_eq_ok.mp h
  have hitems : List.Forall₂ (fun col (item : Sql.SelectItem) => item.called = some col.name ∧
      c.Selects col.value item.expr) l.columns q.query.select := by
    rw [hquery]
    exact (Except.mapM_eq_ok.mp hselect).imp fun _ _ => Catalog.selects_of_compileColumn
  have horder : q.query.orderBy = orderBy := by rw [hquery]
  constructor
  · -- the entry has the name of a column, so it is not looked for among the aggregations
    obtain ⟨item, hitem, hcompiled⟩ :=
      exists_getElem?_of_forall₂ (Except.mapM_eq_ok.mp horderBy) hentry
    have hany : l.columns.any (·.name == col.name) = true :=
      List.any_eq_true.mpr ⟨col, List.mem_of_getElem? hcol, beq_self_eq_true _⟩
    simp only [Catalog.compileSort, htarget, Catalog.compileTarget, hany, if_true,
      Except.bind_eq_ok, Except.pure_eq_ok, Except.ok.injEq, exists_eq_left'] at hcompiled
    rw [horder, hitem, hcompiled]
  · have hmeant := Sql.Query.resultColumn?_eq (hitems.imp fun _ _ hitem => hitem.1) col.name
    cases hfind : l.columns.findIdx? fun other => lowerAscii other.name == lowerAscii col.name with
    | none =>
      -- the column itself has the letters of its name
      have hne := List.findIdx?_eq_none_iff.mp hfind col (List.mem_of_getElem? hcol)
      simp at hne
    | some j =>
      obtain ⟨hj, hletters, hfirst⟩ := List.findIdx?_eq_some_iff_getElem.mp hfind
      obtain ⟨hk, hcol⟩ := List.getElem?_eq_some_iff.mp hcol
      have hle : j ≤ k := by
        by_contra hlt
        have hne := hfirst k (Nat.lt_of_not_le hlt)
        simp [hcol] at hne
      obtain ⟨item, hitem, hcalled, hselects⟩ :=
        exists_getElem?_of_forall₂ hitems (List.getElem?_eq_getElem hj)
      refine ⟨j, l.columns[j], item, hmeant.trans hfind, hle, List.getElem?_eq_getElem hj, hitem,
        hcalled, hselects, by simpa using hletters, ?_⟩
      constructor
      · rintro rfl n hn earlier hearlier
        obtain ⟨_, rfl⟩ := List.getElem?_eq_some_iff.mp hearlier
        simpa using hfirst n hn
      · intro hnone
        by_contra hne
        have hlt : j < k := Nat.lt_of_le_of_ne hle hne
        exact hnone j hlt _ (List.getElem?_eq_getElem hj) (by simpa using hletters)

/-! ## Two totals

The name of a customer is called as the total of the order is, but for the case of a letter. -/

/-- Totals with the names of customers, by those names. -/
def totalsDraft : Draft :=
  { salesDraft with
    columns := .array [
      .object [
        ("alias", .string "total"), ("field", .string "orders.total"), ("label", .string "Paid")],
      .object [
        ("alias", .string "Total"), ("field", .string "customers.name"),
        ("label", .string "Customer")]]
    aggregations := .null
    sorting := .array [.object [("field", .string "Total")]] }

/-- The layout of `totalsDraft`. -/
def totalsLayout : Layout :=
  { salesLayout with
    columns := [
      ⟨.field ⟨"orders", "total"⟩, "Paid", .number, none, "total"⟩,
      ⟨.field ⟨"customers", "name"⟩, "Customer", .text, none, "Total"⟩]
    aggregations := {}
    sorting := [⟨.output "Total", .asc⟩] }

theorem build_totalsDraft :
    (⟨shop, {}⟩ : Validator).build totalsDraft false = .ok totalsLayout := rfl

/-- The order is by the total, though the entry has the very name of the other column. -/
theorem exists_ordered_by_other_column :
    ∃ (v : Validator) (d : Draft) (l : Layout) (q : CompiledQuery) (i j k : Nat)
      (entry : SortEntry) (col other : Column),
      v.build d false = .ok l ∧ l.compile v.catalog 1 = .ok q ∧
        l.sorting[i]? = some entry ∧ entry.target = .output col.name ∧
        l.columns[k]? = some col ∧ l.columns[j]? = some other ∧ other.name ≠ col.name ∧
        q.query.orderBy[i]? = some ⟨.column none col.name, entry.direction⟩ ∧
        q.query.resultColumn? col.name = some j :=
  ⟨⟨shop, {}⟩, totalsDraft, totalsLayout, _, 0, 0, 1, _, _, _, build_totalsDraft, rfl, rfl, rfl, rfl,
    rfl, by decide, rfl, by decide⟩

/-- It is so because the total comes first. -/
theorem orders_by_first_of_letters_totalsLayout :
    ∃ q, totalsLayout.compile shop 1 = .ok q ∧
      q.query.orderBy[0]? = some ⟨.column none "Total", .asc⟩ ∧
      ∃ j ≤ 1, q.query.resultColumn? "Total" = some j ∧ j ≠ 1 := by
  obtain ⟨q, hq⟩ : ∃ q, totalsLayout.compile shop 1 = .ok q := ⟨_, rfl⟩
  obtain ⟨horder, j, _, _, hmeant, hle, -, -, -, -, -, hown⟩ :=
    Layout.orders_by_first_of_letters hq (i := 0) (k := 1) rfl rfl rfl
  refine ⟨q, hq, horder, j, hle, hmeant, fun hj => ?_⟩
  exact hown.mp hj 0 (by decide) _ rfl (by decide)

end TenantReports
