import TenantReports.Proofs.Reports.Requests
import TenantReports.Proofs.Scheduling.Coherence
import TenantReports.Proofs.Store.Written

/-!
# Saving and updating

A draft with problems changes nothing. One without problems is saved, or replaces a report, and
the answer is what the store says from then on; but the row is written before it is read back, and
where its layout cannot be read it stays as it was written. Then the answer is an error, and the
report can neither be got nor listed. Over a loaded catalog that happens exactly if a relation with
an improper name of a field has supplied a join condition.

## Main definitions

* `Reports.Added`, `Reports.Replaced`: what a request does that succeeds
* `Reports.Stranded`, `Reports.Spoiled`: what one leaves behind whose layout cannot be read

## Main results

* `Reports.perform_save`, `Reports.perform_update`: the requests, in terms of the store
* `Reports.save_update_cases`: all that they can do
-/

namespace TenantReports

open Time (Instant)

namespace Reports

variable {δ : Type} {r : Reports δ} {w w' : World δ} {tenant user report : Int} {draft : Draft}
  {l : Layout}

/-! ## What requests do -/

/-- A report was added to the store: it is what the draft says of it, it can be got, and it is one
more in the lists of its user. -/
structure Added (tenant user : Int) (draft : Draft) (l : Layout) (d : Definition)
    (w w' : World δ) : Prop where
  store : ∃ row : DefinitionRow, row.read? = some d ∧ w'.store = w.store.withReport row
  info : d.toReportInfo = {
    id := w.store.lastDefinition + 1, tenant, user, name := draft.name.getD ""
    description := draft.description, category := draft.category, shared := draft.shared
    favorite := draft.favorite, hash := l.hash }
  layout : (Json.parse? l.text).bind Layout.ofJson? = some d.layout
  get : World.perform (get tenant d.id) w' = (.ok d, w')
  list : ∀ ds, (World.perform (list tenant user) w).1 = .ok ds →
    ∃ ds', World.perform (list tenant user) w' = (.ok ds', w') ∧ ds'.Perm (d :: ds)

/-- A row was added that cannot be read: it can neither be got nor listed. -/
structure Stranded (tenant user : Int) (w w' : World δ) : Prop where
  store : ∃ row : DefinitionRow, row.id = w.store.lastDefinition + 1 ∧ row.read? = none ∧
    w'.store = w.store.withReport row
  get : World.perform (get tenant (w.store.lastDefinition + 1)) w'
    = (.error (.store .unreadable), w')
  list : World.perform (list tenant user) w' = (.error (.store .unreadable), w')

theorem Stranded.store_ne (h : Stranded tenant user w w') : w'.store ≠ w.store := by
  obtain ⟨row, -, -, hstore⟩ := h.store
  intro heq
  have hlength := congrArg (·.definitions.length) (hstore.symm.trans heq)
  simp [Store.withReport] at hlength

/-- A report was replaced by another version of it: it is what the draft says of it, and can be
got. -/
structure Replaced (tenant report : Int) (draft : Draft) (l : Layout) (current d : Definition)
    (w w' : World δ) : Prop where
  store : ∃ f, w'.store = w.store.changeDefinition tenant report f
  info : d.toReportInfo = { current.toReportInfo with
    name := draft.name.getD "", description := draft.description, category := draft.category
    shared := draft.shared, favorite := draft.favorite
    version := current.nextVersion l, hash := l.hash }
  layout : (Json.parse? l.text).bind Layout.ofJson? = some d.layout
  get : World.perform (get tenant report) w' = (.ok d, w')

/-- The row of a report was changed into one that cannot be read. -/
structure Spoiled (tenant report : Int) (w w' : World δ) : Prop where
  store : ∃ f, w'.store = w.store.changeDefinition tenant report f
  get : World.perform (get tenant report) w' = (.error (.store .unreadable), w')

/-! ## Requests in terms of the store -/

theorem perform_get (tenant report : Int) (w : World δ) :
    World.perform (get tenant report) w
      = (match w.store.getDefinition tenant report with
        | .ok (some d) => .ok d
        | .ok none => .error (.notFound report)
        | .error e => .error (.store e), w) := run_get tenant report w

theorem perform_get_eq_ok {d : Definition} : (World.perform (get tenant report) w).1 = .ok d ↔
    w.store.getDefinition tenant report = .ok (some d) := by
  rw [perform_get]
  rcases w.store.getDefinition tenant report with e | _ | d' <;> simp

theorem perform_list (tenant user : Int) (w : World δ) :
    World.perform (list tenant user) w
      = ((w.store.listDefinitions tenant user).mapError .store, w) := by
  unfold list onStore World.perform
  rw [World.run_orFail, World.run_onStore]

theorem perform_get_of_read {row : DefinitionRow} {d : Definition}
    (hfind : w.store.definitionRow? tenant report = some row) (hread : row.read? = some d) :
    World.perform (get tenant report) w = (.ok d, w) := by
  rw [perform_get, Store.getDefinition_of_find hfind hread]

theorem perform_get_of_unreadable {row : DefinitionRow}
    (hfind : w.store.definitionRow? tenant report = some row) (hread : row.read? = none) :
    World.perform (get tenant report) w = (.error (.store .unreadable), w) := by
  rw [perform_get, Store.getDefinition_of_unreadable hfind hread]

/-- A draft with problems changes nothing. -/
theorem perform_of_problems {problems : List Problem}
    (hbuild : r.validator.build draft true = .error problems) :
    World.perform (r.save tenant user draft) w = (.error (.invalid problems), w) ∧
      World.perform (r.update tenant report draft) w = (.error (.invalid problems), w) := by
  unfold save update build World.perform
  rw [World.run_op_bind, World.run_op_bind, World.run_orFail, hbuild]
  exact ⟨rfl, rfl⟩

/-- The report that a draft is saved as. -/
def draftedReport (r : Reports δ) (tenant user : Int) (draft : Draft) (l : Layout)
    (w : World δ) : Definition :=
  applyDraft (.new tenant user (draft.name.getD "") l (r.engine.host.clock w.readings)) draft

/-- This report, under an id of its own. -/
def newReport (r : Reports δ) (tenant user : Int) (draft : Draft) (l : Layout) (w : World δ) :
    Definition :=
  { r.draftedReport tenant user draft l w with id := w.store.lastDefinition + 1 }

@[simp] theorem newReport_layout (r : Reports δ) (tenant user : Int) (draft : Draft)
    (l : Layout) (w : World δ) : (r.newReport tenant user draft l w).layout = l := rfl

/-- A draft without problems is written to the store, and the answer is what its row says. -/
theorem perform_save (tenant user : Int) (hbuild : r.validator.build draft true = .ok l)
    (hids : Numbered (w.store.definitions.map (·.id)) w.store.lastDefinition) :
    ∃ w', w'.store = w.store.withReport (.ofDefinition (r.newReport tenant user draft l w)) ∧
      World.perform (r.save tenant user draft) w
        = ((orUnreadable (DefinitionRow.ofDefinition
            (r.newReport tenant user draft l w)).read?).mapError .store, w') := by
  have hsave : World.perform (r.save tenant user draft) w
      = ((w.store.insertDefinition (r.draftedReport tenant user draft l w)).1.mapError .store,
        { w with
          readings := w.readings + 1
          store := (w.store.insertDefinition (r.draftedReport tenant user draft l w)).2 }) := by
    unfold save build World.perform
    rw [World.run_op_bind, World.run_orFail, hbuild]
    rfl
  -- no older row has the new id, so the row that is read back is the one just written
  rw [Store.insertDefinition_eq _ hids, ← newReport] at hsave
  dsimp only at hsave
  exact ⟨_, rfl, hsave⟩

/-- A report that cannot be got is not replaced. -/
theorem perform_update_of_error {e : ReportError} (hbuild : r.validator.build draft true = .ok l)
    (hget : (World.perform (get tenant report) w).1 = .error e) :
    World.perform (r.update tenant report draft) w = (.error e, w) := by
  have hrun : World.perform (get tenant report) w = (.error e, w) := by
    rw [← hget, perform_get]
  unfold update build World.perform
  rw [World.run_op_bind, World.run_orFail, hbuild]
  -- nothing has been done but to look for problems, and what is left starts with the report
  change (get tenant report >>= _ : Op δ Definition).run.run w = _
  rw [World.run_op_bind, show (get tenant report : Op δ Definition).run.run w = _ from hrun]

/-- The report that a draft makes of another one. -/
def changedReport (current : Definition) (draft : Draft) (l : Layout) : Definition :=
  { applyDraft current draft with layout := l }

@[simp] theorem changedReport_layout (current : Definition) (draft : Draft) (l : Layout) :
    (changedReport current draft l).layout = l := rfl

/-- What an update of a report that was got writes to its row. -/
def edit (r : Reports δ) (current : Definition) (draft : Draft) (l : Layout) (w : World δ) :
    DefinitionRow → DefinitionRow :=
  (·.edited (changedReport current draft l) (current.nextVersion l)
    (r.engine.host.clock w.readings))

/-- One that can be got is, and the answer is what its row says afterwards. -/
theorem perform_update {current : Definition} (hbuild : r.validator.build draft true = .ok l)
    (hget : w.store.getDefinition tenant report = .ok (some current)) :
    ∃ row w', row.read? = some current ∧
      w'.store = w.store.changeDefinition tenant report (r.edit current draft l w) ∧
      w'.store.definitionRow? tenant report = some (r.edit current draft l w row) ∧
      World.perform (r.update tenant report draft) w
        = ((orUnreadable (r.edit current draft l w row).read?).mapError .store, w') := by
  -- the report is written under the tenant and the id that it has, which are those asked for
  obtain ⟨rfl, rfl⟩ := Store.isAt_of_getDefinition hget
  obtain ⟨row, -, hcurrent, hfind, hanswer⟩ := Store.updateDefinition_of_current
    (d := changedReport current draft l) hget (r.engine.host.clock w.readings)
  have hupdate : w.store.updateDefinition (changedReport current draft l)
      (r.engine.host.clock w.readings) = (orUnreadable (r.edit current draft l w row).read?,
        w.store.changeDefinition current.tenant current.id (r.edit current draft l w)) := hanswer
  refine ⟨row, { w with
    readings := w.readings + 1
    store := w.store.changeDefinition current.tenant current.id (r.edit current draft l w) },
    hcurrent, rfl, hfind, ?_⟩
  unfold update build World.perform
  rw [World.run_op_bind, World.run_orFail, hbuild]
  change (get current.tenant current.id >>= _ : Op δ Definition).run.run w = _
  rw [World.run_op_bind, run_get, hget]
  change (World.orFail _ (World.onStoreNow _ fun now s =>
    s.updateDefinition (changedReport current draft l) now) : Op δ Definition).run.run w = _
  rw [World.run_orFail, World.run_onStoreNow, hupdate]

/-! ## Layouts that can be read, and others -/

section Outcomes

variable {row : DefinitionRow} {current d : Definition}

theorem perform_get_withReport
    (hids : Numbered (w.store.definitions.map (·.id)) w.store.lastDefinition)
    (hid : row.id = w.store.lastDefinition + 1) (hstore : w'.store = w.store.withReport row)
    (hread : row.read? = some d) : World.perform (get row.tenant d.id) w' = (.ok d, w') := by
  rw [show d.id = row.id by rw [DefinitionRow.info_of_read? hread]]
  exact perform_get_of_read (by rw [hstore, Store.definitionRow?_withReport hids hid]) hread

/-- A row that can be read is one more report in a list. -/
theorem exists_perform_list (hstore : w'.store = w.store.withReport row)
    (hread : row.read? = some d) (ds : List Definition)
    (hds : (World.perform (list row.tenant row.user) w).1 = .ok ds) :
    ∃ ds', World.perform (list row.tenant row.user) w' = (.ok ds', w') ∧ ds'.Perm (d :: ds) := by
  rw [perform_list] at hds
  cases hlist : w.store.listDefinitions row.tenant row.user with
  | error e =>
    rw [hlist] at hds
    cases hds
  | ok ds =>
    rw [hlist] at hds
    cases hds
    obtain ⟨ds', hds', hperm⟩ := Store.exists_listDefinitions_withReport hlist hread
    refine ⟨ds', ?_, hperm⟩
    rw [perform_list, hstore, hds']
    rfl

/-- One that cannot is in the way of all. -/
theorem stranded_of_unreadable
    (hids : Numbered (w.store.definitions.map (·.id)) w.store.lastDefinition)
    (hid : row.id = w.store.lastDefinition + 1) (hstore : w'.store = w.store.withReport row)
    (hread : row.read? = none) : Stranded row.tenant row.user w w' where
  store := ⟨row, hid, hread, hstore⟩
  get := by
    rw [← hid]
    exact perform_get_of_unreadable (by rw [hstore, Store.definitionRow?_withReport hids hid]) hread
  list := by
    have hlist := Store.listDefinitions_of_unreadable (s := w.store.withReport row)
      (List.mem_append_right _ (List.mem_singleton_self row)) hread
    rw [perform_list, hstore, hlist]
    rfl

variable (hclock : (r.engine.host.clock w.readings).Plain)
  (hbuild : r.validator.build draft true = .ok l)

include hclock hbuild

/-- **A draft whose layout can be read is saved.** -/
theorem exists_added (hids : Numbered (w.store.definitions.map (·.id)) w.store.lastDefinition)
    (hlegible : l.Legible) : ∃ d w',
      World.perform (r.save tenant user draft) w = (.ok d, w') ∧
        Added tenant user draft l d w w' := by
  obtain ⟨w', hstore, hanswer⟩ := perform_save tenant user hbuild hids
  obtain ⟨d, hread⟩ := Option.isSome_iff_exists.mp ((DefinitionRow.isSome_read?_ofDefinition
    (d := r.newReport tenant user draft l w) rfl hclock hclock).mpr hlegible)
  have hlayout := DefinitionRow.layout_of_read?_ofDefinition hread
  have hinfo := DefinitionRow.info_of_read?_ofDefinition hread
  rw [newReport_layout] at hlayout hinfo
  have hget := perform_get_withReport hids rfl hstore hread
  have hlist := exists_perform_list hstore hread
  exact ⟨d, w', by rw [hanswer, hread]; rfl,
    { store := ⟨_, hread, hstore⟩, info := hinfo, layout := hlayout, get := hget, list := hlist }⟩

/-- **One whose layout cannot be read leaves a row behind.** -/
theorem exists_stranded (hids : Numbered (w.store.definitions.map (·.id)) w.store.lastDefinition)
    (hlegible : ¬ l.Legible) : ∃ w',
      World.perform (r.save tenant user draft) w = (.error (.store .unreadable), w') ∧
        Stranded tenant user w w' := by
  obtain ⟨w', hstore, hanswer⟩ := perform_save tenant user hbuild hids
  have hread := Option.not_isSome_iff_eq_none.mp fun hsome => hlegible
    ((DefinitionRow.isSome_read?_ofDefinition (d := r.newReport tenant user draft l w)
      rfl hclock hclock).mp hsome)
  exact ⟨w', by rw [hanswer, hread]; rfl, stranded_of_unreadable hids rfl hstore hread⟩

variable (hget : w.store.getDefinition tenant report = .ok (some current))

include hget

/-- **A report is replaced where the new layout can be read.** -/
theorem exists_replaced (hlegible : l.Legible) : ∃ d w',
    World.perform (r.update tenant report draft) w = (.ok d, w') ∧
      Replaced tenant report draft l current d w w' := by
  obtain ⟨row, w', hcurrent, hstore, hfind, hanswer⟩ := perform_update hbuild hget
  obtain ⟨d, hread⟩ := Option.isSome_iff_exists.mp ((DefinitionRow.isSome_read?_edited
    (Option.isSome_of_eq_some hcurrent) (changedReport current draft l) (current.nextVersion l)
    hclock).mpr hlegible)
  have hlayout := DefinitionRow.layout_of_read?_edited hread
  have hinfo := DefinitionRow.info_of_read?_edited hcurrent hread
  rw [changedReport_layout] at hlayout hinfo
  exact ⟨d, w', by rw [hanswer, edit, hread]; rfl,
    { store := ⟨_, hstore⟩
      info := hinfo
      layout := hlayout
      get := perform_get_of_read hfind hread }⟩

/-- **Where it cannot, the row is spoiled.** -/
theorem exists_spoiled (hlegible : ¬ l.Legible) : ∃ w',
    World.perform (r.update tenant report draft) w = (.error (.store .unreadable), w') ∧
      Spoiled tenant report w w' := by
  obtain ⟨row, w', hcurrent, hstore, hfind, hanswer⟩ := perform_update hbuild hget
  have hread := Option.not_isSome_iff_eq_none.mp fun hsome => hlegible
    ((DefinitionRow.isSome_read?_edited (Option.isSome_of_eq_some hcurrent)
      (changedReport current draft l) (current.nextVersion l) hclock).mp hsome)
  exact ⟨w', by rw [hanswer, edit, hread]; rfl,
    { store := ⟨_, hstore⟩
      get := perform_get_of_unreadable hfind hread }⟩

end Outcomes

/-- **What saving and updating can do.** A draft with problems changes nothing, and no report that
cannot be got is updated. Any other request is done if the text of the layout can be read, and the
store holds what it answers; if it cannot, the request fails and leaves the unreadable text behind.
For the drafts that were read themselves it can be read exactly if all names in the join conditions
are proper ones, and for any other name there is a relation that names an undeclared field. -/
theorem save_update_cases (hcatalog : r.engine.catalog.Loaded)
    (hclock : (r.engine.host.clock w.readings).Plain)
    (hids : Numbered (w.store.definitions.map (·.id)) w.store.lastDefinition)
    (tenant user report : Int) (draft : Draft) :
    (∀ problems, r.validator.build draft true = .error problems →
      World.perform (r.save tenant user draft) w = (.error (.invalid problems), w) ∧
        World.perform (r.update tenant report draft) w = (.error (.invalid problems), w)) ∧
    ∀ l, r.validator.build draft true = .ok l →
      (∀ e, (World.perform (get tenant report) w).1 = .error e →
        World.perform (r.update tenant report draft) w = (.error e, w)) ∧
      (l.Legible →
        (∃ d w', World.perform (r.save tenant user draft) w = (.ok d, w') ∧
          Added tenant user draft l d w w') ∧
        ∀ current, (World.perform (get tenant report) w).1 = .ok current →
          ∃ d w', World.perform (r.update tenant report draft) w = (.ok d, w') ∧
            Replaced tenant report draft l current d w w') ∧
      (¬ l.Legible →
        (∃ w', World.perform (r.save tenant user draft) w = (.error (.store .unreadable), w') ∧
          Stranded tenant user w w') ∧
        ∀ current, (World.perform (get tenant report) w).1 = .ok current →
          ∃ w', World.perform (r.update tenant report draft) w
              = (.error (.store .unreadable), w') ∧
            Spoiled tenant report w w') ∧
      (draft.Readable → (l.Legible ↔ ∀ j ∈ l.sources.joins, j.Named) ∧
        ∀ (n : Nat) j, l.sources.joins[n]? = some j → ¬ j.Named →
          ∃ item, draft.joinItems[n]? = some item ∧ item.states "on" = false ∧
            ∃ source q, r.engine.catalog.Links (l.sources.scopeAfter n) j.table source q ∧
              q.fieldsFrom? source = some (j.left, j.right) ∧
                ¬ q.Declared r.engine.catalog source) := by
  refine ⟨fun problems hbuild => perform_of_problems hbuild, fun l hbuild => ?_⟩
  have hpassed := Validator.passed_of_build hbuild
  refine ⟨fun e => perform_update_of_error hbuild, fun hlegible => ?_, fun hlegible => ?_,
    fun hdraft => ?_⟩
  · exact ⟨exists_added hclock hbuild hids hlegible, fun current hget =>
      exists_replaced hclock hbuild (perform_get_eq_ok.mp hget) hlegible⟩
  · exact ⟨exists_stranded hclock hbuild hids hlegible, fun current hget =>
      exists_spoiled hclock hbuild (perform_get_eq_ok.mp hget) hlegible⟩
  · exact ⟨hpassed.legible_iff hcatalog.plain hdraft, fun n j hj =>
      hpassed.links_of_not_named hcatalog.plain hj⟩

/-! ## A relation with a dot

Orders are related to customers by a field whose name is in two parts. -/

/-- A catalog whose one relation names a field that no catalog can declare. -/
def dottedToml : String :=
  "[sources.customers]
table = 'people'
model = 'Customer'
fields.id.type = 'number'
[sources.orders]
table = 'orders'
model = 'Order'
fields.customer.type = 'number'
[sources.orders.relations.by]
target = 'customers'
local_field = 'customer'
foreign_field = 'key.id'"

/-- The catalog of `dottedToml`. -/
def dottedShop : Catalog where
  sources := [
    { key := "customers", label := "customers", category := "", table := "people",
      model := "Customer", tenantColumn := defaultTenantColumn,
      fields := [{ key := "id", label := "id", type := .number }], relations := [] },
    { key := "orders", label := "orders", category := "", table := "orders",
      model := "Order", tenantColumn := defaultTenantColumn,
      fields := [{ key := "customer", label := "customer", type := .number }],
      relations := [
        { key := "by", target := "customers", localField := some "customer",
          foreignField := some "key.id" }] }]

-- the characters of the text are taken out first, so that the reader runs over a list
set_option maxRecDepth 4000 in
theorem ofToml_dottedToml : Catalog.ofToml dottedToml = .ok dottedShop := by
  have hchars : dottedToml.toList = _ := String.toList_ofList
  rw [Catalog.ofToml, Toml.parse?, hchars]
  decide +kernel

/-- Reports over this catalog. -/
def dottedReports : Reports Unit where
  scheduler := { engine := { host := Scheduler.quietHost, catalog := dottedShop } }

/-- The orders alone. -/
def ordersDraft : Draft where
  name := some "Orders"
  category := some "sales"
  sources := .object [("primary", .string "orders")]
  columns := .array [
    .object [("field", .string "orders.customer"), ("label", .string "Customer")]]

/-- The orders with their customers; the join states no condition. -/
def customersDraft : Draft where
  name := some "Customers"
  category := some "sales"
  sources := .object [
    ("joins", .array [.object [("table", .string "customers")]]),
    ("primary", .string "orders")]
  columns := .array [
    .object [("field", .string "customers.id"), ("label", .string "Customer")]]

/-- The layout of `ordersDraft`. -/
def ordersLayout : Layout where
  sources := ⟨"orders", []⟩
  columns := [⟨.field ⟨"orders", "customer"⟩, "Customer", .number, none, "orders_customer"⟩]
  filters := []
  aggregations := ⟨[], []⟩
  sorting := []

/-- The layout of `customersDraft`. -/
def customersLayout : Layout where
  sources := ⟨"orders", [⟨"customers", .inner, ⟨"orders", "customer"⟩, ⟨"customers", "key.id"⟩⟩]⟩
  columns := [⟨.field ⟨"customers", "id"⟩, "Customer", .number, none, "customers_id"⟩]
  filters := []
  aggregations := ⟨[], []⟩
  sorting := []

theorem build_ordersDraft : dottedReports.validator.build ordersDraft true = .ok ordersLayout := rfl

theorem build_customersDraft :
    dottedReports.validator.build customersDraft true = .ok customersLayout := rfl

theorem readable_ordersDraft : ordersDraft.Readable where
  columns := .array (by simp [Json.Readable.object, Json.Readable.string])
  filters := .null

theorem readable_customersDraft : customersDraft.Readable where
  columns := .array (by simp [Json.Readable.object, Json.Readable.string])
  filters := .null

theorem not_named_customersLayout : ¬ ∀ j ∈ customersLayout.sources.joins, j.Named := by
  decide +kernel

theorem plain_dottedShop : dottedShop.Plain := Catalog.plain_of_ofToml ofToml_dottedToml

theorem legible_ordersLayout : ordersLayout.Legible :=
  ((Validator.passed_of_build build_ordersDraft).legible_iff plain_dottedShop
    readable_ordersDraft).mpr (List.forall_mem_nil _)

theorem not_legible_customersLayout : ¬ customersLayout.Legible := fun hlegible =>
  not_named_customersLayout (((Validator.passed_of_build build_customersDraft).legible_iff
    plain_dottedShop readable_customersDraft).mp hlegible)

theorem newYear_plain : newYear.Plain := ⟨by decide, by decide, by decide, by decide⟩

/-- The row of a report of the orders. -/
def ordersRow : DefinitionRow :=
  .ofDefinition
    { Definition.new 1 1 "Orders" ordersLayout newYear with id := 1, category := some "sales" }

theorem exists_read?_ordersRow : ∃ d, ordersRow.read? = some d :=
  Option.isSome_iff_exists.mp ((DefinitionRow.isSome_read?_ofDefinition rfl newYear_plain
    newYear_plain).mpr legible_ordersLayout)

/-- This report and no other. -/
def withOrders : World Unit where
  store := ({} : Store).withReport ordersRow
  data := ()

theorem numbered_withOrders :
    Numbered (withOrders.store.definitions.map (·.id)) withOrders.store.lastDefinition :=
  ⟨by decide, by decide⟩

theorem exists_getDefinition_withOrders :
    ∃ current, withOrders.store.getDefinition 1 1 = .ok (some current) := by
  obtain ⟨current, hread⟩ := exists_read?_ordersRow
  exact ⟨current, Store.getDefinition_of_find rfl hread⟩

theorem exists_listDefinitions_withOrders :
    ∃ ds, withOrders.store.listDefinitions 1 1 = .ok ds := by
  obtain ⟨d, hread⟩ := exists_read?_ordersRow
  have hnone : ({} : Store).listDefinitions ordersRow.tenant ordersRow.user = .ok [] := by
    simp [Store.listDefinitions, readRows, orUnreadable]
  obtain ⟨ds, hds, -⟩ := Store.exists_listDefinitions_withReport hnone hread
  exact ⟨ds, hds⟩

/-- Over this catalog the orders are saved. A report of their customers is not, nor is it put in the
place of another one, but neither request is without effect. -/
theorem save_update_withOrders :
    (∃ d w', World.perform (dottedReports.save 1 1 ordersDraft) withOrders = (.ok d, w') ∧
      Added 1 1 ordersDraft ordersLayout d withOrders w') ∧
    (∃ w', World.perform (dottedReports.save 1 1 customersDraft) withOrders
        = (.error (.store .unreadable), w') ∧ Stranded 1 1 withOrders w') ∧
    ∃ w', World.perform (dottedReports.update 1 1 customersDraft) withOrders
        = (.error (.store .unreadable), w') ∧ Spoiled 1 1 withOrders w' := by
  have hcatalog : dottedReports.engine.catalog.Loaded := .inr ⟨dottedToml, ofToml_dottedToml⟩
  obtain ⟨-, horders, -, hreadable⟩ := (save_update_cases hcatalog newYear_plain
    numbered_withOrders 1 1 1 ordersDraft).2 ordersLayout build_ordersDraft
  obtain ⟨-, -, hcustomers, hreadable'⟩ := (save_update_cases hcatalog newYear_plain
    numbered_withOrders 1 1 1 customersDraft).2 customersLayout build_customersDraft
  -- the orders alone have no join conditions
  have hlegible : ordersLayout.Legible :=
    (hreadable readable_ordersDraft).1.mpr (List.forall_mem_nil _)
  have hillegible : ¬ customersLayout.Legible := fun hlegible =>
    not_named_customersLayout ((hreadable' readable_customersDraft).1.mp hlegible)
  obtain ⟨current, hcurrent⟩ := exists_getDefinition_withOrders
  exact ⟨(horders hlegible).1, (hcustomers hillegible).1,
    (hcustomers hillegible).2 current (perform_get_eq_ok.mpr hcurrent)⟩

/-- **A request that fails can have changed the store.** A report is saved or updated with a layout
that cannot be read: the answer is an error, but the row stays, and the reports of its user can no
more be listed. -/
theorem exists_error_of_changed_store :
    Catalog.ofToml dottedToml = .ok dottedReports.engine.catalog ∧
    (∃ ds, (World.perform (list 1 1) withOrders).1 = .ok ds) ∧
    (∃ w', World.perform (dottedReports.save 1 1 customersDraft) withOrders
        = (.error (.store .unreadable), w') ∧
      w'.store ≠ withOrders.store ∧
      (World.perform (list 1 1) w').1 = .error (.store .unreadable)) ∧
    ∃ w', World.perform (dottedReports.update 1 1 customersDraft) withOrders
        = (.error (.store .unreadable), w') ∧
      w'.store.definitionRow? 1 1 ≠ withOrders.store.definitionRow? 1 1 := by
  obtain ⟨current, hcurrent⟩ := exists_getDefinition_withOrders
  obtain ⟨ds, hds⟩ := exists_listDefinitions_withOrders
  obtain ⟨w', hsave, hstranded⟩ : ∃ w', World.perform (dottedReports.save 1 1 customersDraft)
      withOrders = (.error (.store .unreadable), w') ∧ Stranded 1 1 withOrders w' :=
    exists_stranded newYear_plain build_customersDraft numbered_withOrders
      not_legible_customersLayout
  obtain ⟨w'', hupdate, hspoiled⟩ : ∃ w', World.perform (dottedReports.update 1 1 customersDraft)
      withOrders = (.error (.store .unreadable), w') ∧ Spoiled 1 1 withOrders w' :=
    exists_spoiled newYear_plain build_customersDraft hcurrent not_legible_customersLayout
  refine ⟨ofToml_dottedToml, ⟨ds, ?_⟩, ⟨w', hsave, hstranded.store_ne, ?_⟩, w'', hupdate,
    fun hrow => ?_⟩
  · rw [perform_list, hds]
    rfl
  · rw [hstranded.list]
  · have hget := hspoiled.get
    rw [perform_get, Store.getDefinition, hrow, ← Store.getDefinition, hcurrent] at hget
    cases hget

end Reports

end TenantReports
