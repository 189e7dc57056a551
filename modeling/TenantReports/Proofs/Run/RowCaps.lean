import TenantReports.Proofs.Compile.Narrowing
import TenantReports.Proofs.Process.Results
import TenantReports.Proofs.Run.Exports
import TenantReports.Proofs.Sql.Placeholders

/-!
# Rows within a cap

A run asks for one row more than the cap. What a database that obeys the limit of a statement
answers therefore tells whether the query matches more rows than the cap, and the first rows of it
are the first rows that the query matches. The limit stands at the end of the statement, in every
dialect, and is the number asked for as long as that is a signed number of 64 bits.

## Main definitions

* `Sql.Statement.limited`: a statement with a limit on its last line
* `Host.Serves`: a database that obeys limits
* `Engine.Shows`: an outcome shows the first rows of a query

## Main results

* `Sql.Query.statement_withLimit`: where the limit of a query is in its statement
* `Engine.returns_perform`: what a run returns, whatever goes on beside it
* `Engine.rows_within_cap`: runs and previews
-/

namespace TenantReports

open Process (Interleaved Visits)
open World (Returns)

/-! ## Limits of statements -/

namespace Sql

/-- A statement with a limit, on a line of its own. -/
def Statement.limited (s : Statement) (n : Nat) : Statement :=
  ⟨s.sql ++ "\nLIMIT " ++ Json.intText n, s.params⟩

/-- **The limit of a query is the last line of its statement**, and all else is the same without
it. -/
theorem Query.statement_withLimit {q : Query} (h : q.limit = none) (n : Nat) (d : Dialect) :
    (q.withLimit n).statement d = (q.statement d).limited (min n (2 ^ 63 - 1)) := by
  have htokens : (q.withLimit n).tokens = q.tokens ++ .newline :: limitTokens n := by
    simp only [tokens, withLimit, h, List.append_nil, List.append_assoc]
  have hlimit : ∀ number, renderChars d number (.newline :: limitTokens n)
      = "\nLIMIT ".toList ++ (Json.intText (min n (2 ^ 63 - 1) : Nat)).toList := by
    intro number
    have hpow : Nat.pow 2 63 = 2 ^ 63 := rfl
    have hmin : min (n : Int) (Nat.pow 2 63 - 1) = (min n (2 ^ 63 - 1) : Nat) := by omega
    rw [limitTokens, hmin]
    simp [renderChars, Token.chars, Keyword.text, Literal.chars]
  rw [statement, statement, Statement.ofTokens, Statement.ofTokens, Statement.limited, htokens,
    Statement.mk.injEq]
  constructor
  · apply String.toList_inj.mp
    rw [render, renderChars_append, hlimit]
    simp [render]
  · rw [boundValues_append]
    exact List.append_nil _

end Sql

variable {δ : Type}

/-- A database that obeys limits: what it answers to a statement with a limit are the first rows,
up to the limit, of those that the statement without it matches. -/
def Host.Serves (h : Host δ) (matched : Sql.Statement → δ → List (List Json)) : Prop :=
  ∀ (s : Sql.Statement) (n timeout : Nat) (cancelled : Bool) (data : δ) (rows : List (List Json)),
    (h.query ⟨s.limited n, timeout, cancelled⟩ data).1 = .ok rows → rows = (matched s data).take n

namespace CompiledQuery

theorem applyFilters_limit (q : CompiledQuery) (c : Catalog) (values : FilterValues) (l : Layout) :
    (q.applyFilters c values l).query.limit = q.query.limit := by
  rw [applyFilters, foldl_filter]

theorem applyFilters_columns (q : CompiledQuery) (c : Catalog) (values : FilterValues)
    (l : Layout) : (q.applyFilters c values l).columns = q.columns := by
  rw [applyFilters, foldl_filter]

end CompiledQuery

/-- A query that a layout compiles to has no limit yet. -/
theorem Layout.limit_of_compile {l : Layout} {c : Catalog} {tenant : Int} {q : CompiledQuery}
    (h : l.compile c tenant = .ok q) : q.query.limit = none := by
  obtain ⟨primary, joins, select, groupBy, orderBy, -, -, -, -, -, -, -, hquery⟩ :=
    compile_eq_ok.mp h
  rw [hquery]

namespace Engine

variable {e : Engine δ} {matched : Sql.Statement → δ → List (List Json)} {V : World δ → Prop}

/-! ## Runs -/

/-- The rows that a run of a report may show: those that its query matches in some data, with the
conditions of its filters and without a limit. -/
def found (e : Engine δ) (matched : Sql.Statement → δ → List (List Json)) (compiled : CompiledQuery)
    (d : Definition) (r : RunRequest) (data : δ) : List (List Json) :=
  matched ((compiled.applyFilters e.catalog r.filters d.layout).statement e.host.dialect) data

/-- An outcome shows the first rows that a query matches, up to the cap, in the data of one of the
worlds of a set, and says whether there are more. -/
def Shows (e : Engine δ) (matched : Sql.Statement → δ → List (List Json)) (V : World δ → Prop)
    (d : Definition) (r : RunRequest) (outcome : RunOutcome) : Prop :=
  ∃ compiled w, d.layout.compile e.catalog r.tenant = .ok compiled ∧ V w ∧
    outcome.rows = e.formatter.formatRows (compiled.columns.map (·.format))
      ((e.found matched compiled d r w.data).take e.limits.rowCap) ∧
    outcome.truncated
      = decide (e.limits.rowCap < (e.found matched compiled d r w.data).length)

/-- One row more than the cap is asked for, which is a number of 64 bits. -/
theorem rowsAsked_eq (hcap : e.limits.rowCap ≤ 2 ^ 63 - 2) :
    e.limits.rowsAsked = e.limits.rowCap + 1 := by
  have hpow : Nat.pow 2 64 = 2 ^ 64 := rfl
  rw [Limits.rowsAsked, hpow]
  apply Nat.mod_eq_of_lt
  omega

/-- So the statement of a run asks for exactly that many rows. -/
theorem statement_rowsAsked (hcap : e.limits.rowCap ≤ 2 ^ 63 - 2) {q : CompiledQuery}
    (hlimit : q.query.limit = none) (dialect : Sql.Dialect) :
    (q.withLimit e.limits.rowsAsked).statement dialect
      = (q.statement dialect).limited (e.limits.rowCap + 1) := by
  have hmin : min (e.limits.rowCap + 1) (2 ^ 63 - 1) = e.limits.rowCap + 1 := by omega
  rw [rowsAsked_eq hcap]
  show (q.query.withLimit _).statement dialect = _
  rw [Sql.Query.statement_withLimit hlimit, hmin]
  rfl

/-- **What a run returns**, whatever goes on beside it: it shows the first rows of its query, in
the data that it finds when it asks for them. -/
theorem returns_perform (hserves : e.host.Serves matched) (hcap : e.limits.rowCap ≤ 2 ^ 63 - 2)
    (d : Definition) (r : RunRequest) (x : Execution) :
    Returns V (fun outcome => outcome.execution = x.id ∧ e.Shows matched V d r outcome)
      (e.perform d r x) := by
  unfold perform
  refine World.returns_after fun _ => ?_
  -- the layout is compiled
  refine World.returns_bind (fun compiled => d.layout.compile e.catalog r.tenant = .ok compiled)
    (World.returns_orFail fun _ h => h) ?_
  intro compiled hcompiled
  refine World.returns_when fun _ => ?_
  -- the rows are fetched, from the data of a world of the set
  have hlimit : (compiled.applyFilters e.catalog r.filters d.layout).query.limit = none := by
    rw [CompiledQuery.applyFilters_limit, Layout.limit_of_compile hcompiled]
  refine World.returns_bind (fun rows => ∃ w, V w ∧
    rows = (e.found matched compiled d r w.data).take (e.limits.rowCap + 1)) ?_ ?_
  · refine World.returns_orFail (Process.ends_atomically fun w hw rows hrows => ⟨w, hw, ?_⟩)
    rw [statement_rowsAsked hcap hlimit] at hrows
    exact hserves _ _ _ _ _ _ hrows
  rintro rows ⟨w, hw, hrows⟩
  have hshown : e.formatter.formatRows
      ((compiled.applyFilters e.catalog r.filters d.layout).columns.map (·.format))
      (rows.take e.limits.rowCap) = e.formatter.formatRows (compiled.columns.map (·.format))
        ((e.found matched compiled d r w.data).take e.limits.rowCap) := by
    -- of the rows up to the cap and one more, those up to the cap
    rw [hrows, List.take_take, Nat.min_eq_left (Nat.le_succ _), CompiledQuery.applyFilters_columns]
  have htruncated : decide (e.limits.rowCap < rows.length)
      = decide (e.limits.rowCap < (e.found matched compiled d r w.data).length) := by
    -- there is one more exactly if more rows match than the cap allows
    rw [hrows, List.length_take]
    apply decide_eq_decide.mpr
    omega
  dsimp only
  rw [hshown, htruncated]
  cases r.exportAs <;>
  · refine World.returns_after fun artifact => World.returns_after fun _ =>
      World.returns_when fun _ => World.returns_pure ?_
    exact ⟨rfl, compiled, w, hcompiled, hw, rfl, rfl⟩

theorem ends_execute (hserves : e.host.Serves matched) (hcap : e.limits.rowCap ≤ 2 ^ 63 - 2)
    (d : Definition) (r : RunRequest) : (e.execute d r).Ends V
      fun answer => ∀ outcome, answer = .ok outcome → e.Shows matched V d r outcome := by
  refine Process.Ends.bind (Process.ends_of_forall fun _ => trivial) fun x (_ : True) => ?_
  refine Process.Ends.bind (returns_perform hserves hcap d r x) fun answer hanswer => ?_
  cases answer with
  | ok outcome =>
    refine Process.ends_pure fun o ho => ?_
    obtain rfl := Except.ok.inj ho
    exact (hanswer outcome rfl).2
  | error fault =>
    refine Process.Ends.bind (Process.ends_of_forall fun _ => trivial) fun _ (_ : True) => ?_
    exact Process.ends_pure fun _ h => nomatch h

/-- The runs of a pool: each shows the first rows of its query, in the data at one moment of the
pool. -/
theorem shows_of_interleaved (hserves : e.host.Serves matched)
    (hcap : e.limits.rowCap ≤ 2 ^ 63 - 2) {runs : List (Definition × RunRequest)}
    {answers : List (Except RunFailure RunOutcome)} {w w' : World δ}
    (h : Interleaved (runs.map fun x => e.execute x.1 x.2) w (answers.map .done) w') {i : Nat}
    {d : Definition} {r : RunRequest} {outcome : RunOutcome} (hrun : runs[i]? = some (d, r))
    (hanswer : answers[i]? = some (.ok outcome)) :
    e.Shows matched (Visits (runs.map fun x => e.execute x.1 x.2) w (answers.map .done) w') d r
      outcome := by
  let visited := Visits (runs.map fun x => e.execute x.1 x.2) w (answers.map .done) w'
  let posts := runs.map fun x (answer : Except RunFailure RunOutcome) =>
    ∀ outcome, answer = .ok outcome → e.Shows matched visited x.1 x.2 outcome
  have hstart : List.Forall₂ (fun post p => Process.Ends visited post p) posts
      (runs.map fun x => e.execute x.1 x.2) := by
    rw [List.forall₂_map_left_iff, List.forall₂_map_right_iff, List.forall₂_same]
    exact fun x _ => ends_execute hserves hcap x.1 x.2
  have hends := h.ends (fun _ hv => hv) hstart
  rw [List.forall₂_map_left_iff, List.forall₂_map_right_iff] at hends
  obtain ⟨answer, hat, hshows⟩ := exists_getElem?_of_forall₂ hends hrun
  obtain rfl := Option.some.inj (hat.symm.trans hanswer)
  exact hshows outcome rfl

/-! ## Previews -/

/-- A preview that succeeds shows the first rows of its query, up to its limit. -/
theorem rows_of_preview (hserves : e.host.Serves matched) {l : Layout} {tenant : Int} {limit : Nat}
    {w : World δ} (hlimit : limit ≤ 2 ^ 63 - 1)
    (hok : ((e.preview l tenant limit).run w).1.error = none) :
    ∃ compiled, l.compile e.catalog tenant = .ok compiled ∧
      ((e.preview l tenant limit).run w).1.rows
        = e.formatter.formatRows (compiled.columns.map (·.format))
          ((matched (compiled.statement e.host.dialect) w.data).take limit) := by
  unfold preview at hok ⊢
  cases hcompile : l.compile e.catalog tenant with
  | error err =>
    rw [hcompile] at hok
    cases hok
  | ok compiled =>
    refine ⟨compiled, rfl, ?_⟩
    simp only [hcompile, Process.run_bind, fetch, Process.run_atomically] at hok ⊢
    have hstatement : (compiled.withLimit limit).statement e.host.dialect
        = (compiled.statement e.host.dialect).limited limit := by
      have hmin : min limit (2 ^ 63 - 1) = limit := by omega
      have hquery := Sql.Query.statement_withLimit (Layout.limit_of_compile hcompile) limit
        e.host.dialect
      rwa [hmin] at hquery
    rw [hstatement] at hok ⊢
    cases hanswer : (e.host.query ⟨(compiled.statement e.host.dialect).limited limit,
        e.limits.queryTimeoutSecs, false⟩ w.data).1 with
    | error err =>
      rw [hanswer] at hok
      cases hok
    | ok rows =>
      have hrows := hserves _ _ _ _ _ _ hanswer
      simp only [Process.run_pure]
      rw [hrows, List.take_take, Nat.min_self]
      rfl

/-! ## Both -/

/-- **Runs and previews show the first rows of their queries**, over a database that obeys limits.
A run asks for one row more than the cap, and the statement says so in every dialect. A run that
goes well, beside any others, shows the first rows that its query matches, up to the cap, in the
data at a moment of the pool; it tells whether there are more, and its record says the same. A
preview that goes well shows the first rows up to its limit. -/
theorem rows_within_cap (hserves : e.host.Serves matched) (hcap : e.limits.rowCap ≤ 2 ^ 63 - 2)
    (hids : Function.Injective e.host.executionId) :
    e.limits.rowsAsked = e.limits.rowCap + 1 ∧
      (∀ (q : CompiledQuery) (dialect : Sql.Dialect), q.query.limit = none →
        (q.withLimit e.limits.rowsAsked).statement dialect
          = (q.statement dialect).limited (e.limits.rowCap + 1)) ∧
      (∀ (runs : List (Definition × RunRequest)) (answers : List (Except RunFailure RunOutcome))
        (w w' : World δ),
        Interleaved (runs.map fun x => e.execute x.1 x.2) w (answers.map .done) w' →
        (∀ row ∈ w.store.executions, ¬ e.host.coming w.issued row.id) →
        ∀ (i : Nat) (d : Definition) (r : RunRequest) (outcome : RunOutcome),
          runs[i]? = some (d, r) → answers[i]? = some (.ok outcome) →
          ∃ (compiled : CompiledQuery) (v : World δ) (x : ExecutionRow),
            d.layout.compile e.catalog r.tenant = .ok compiled ∧
            Visits (runs.map fun x => e.execute x.1 x.2) w (answers.map .done) w' v ∧
            outcome.rows = e.formatter.formatRows (compiled.columns.map (·.format))
              ((e.found matched compiled d r v.data).take e.limits.rowCap) ∧
            outcome.rows.length
              = min e.limits.rowCap (e.found matched compiled d r v.data).length ∧
            (outcome.truncated = true
              ↔ e.limits.rowCap < (e.found matched compiled d r v.data).length) ∧
            x ∈ w'.store.executions ∧ x.id = outcome.execution ∧ x.status = .completed ∧
            x.rowCount
              = some (min e.limits.rowCap (e.found matched compiled d r v.data).length : Nat) ∧
            x.truncated = outcome.truncated) ∧
      ∀ (l : Layout) (tenant : Int) (limit : Nat) (w : World δ), limit ≤ 2 ^ 63 - 1 →
        ((e.preview l tenant limit).run w).1.error = none →
        ∃ compiled, l.compile e.catalog tenant = .ok compiled ∧
          ((e.preview l tenant limit).run w).1.rows
            = e.formatter.formatRows (compiled.columns.map (·.format))
              ((matched (compiled.statement e.host.dialect) w.data).take limit) ∧
          ((e.preview l tenant limit).run w).1.rows.length
            = min limit (matched (compiled.statement e.host.dialect) w.data).length := by
  refine ⟨rowsAsked_eq hcap, fun q dialect hlimit => statement_rowsAsked hcap hlimit dialect,
    ?_, ?_⟩
  · intro runs answers w w' hpool hfresh i d r outcome hrun hanswer
    obtain ⟨compiled, v, hcompiled, hv, hrows, htruncated⟩ :=
      shows_of_interleaved hserves hcap hpool hrun hanswer
    have hlength : outcome.rows.length
        = min e.limits.rowCap (e.found matched compiled d r v.data).length := by
      rw [hrows, CellFormatter.formatRows, List.length_map, List.length_take]
    -- the record of the run is among those of the pool, and says what the run answers
    obtain ⟨ns, rfl, hsettled, hbooks⟩ := exists_records hpool hids hfresh
    obtain ⟨n, hn, hlabel, x, hnote, -, htells, -⟩ :=
      Process.exists_note_of_index hsettled hanswer
    obtain ⟨news, hnews⟩ := hbooks.records
    have hx : x ∈ w'.store.executions := by
      rw [hnews.executions]
      refine List.mem_append_right _ ?_
      rw [← Multiset.mem_coe, hnews.noted, Multiset.mem_filterMap]
      exact ⟨n.2, Multiset.mem_coe.mpr (List.mem_map_of_mem hn), by rw [hnote]⟩
    obtain ⟨hstatus, hid, hcount, -, htold, -⟩ := htells
    rw [hlength] at hcount
    exact ⟨compiled, v, x, hcompiled, hv, hrows, hlength, by rw [htruncated, decide_eq_true_iff],
      hx, hid, hstatus, hcount, htold⟩
  · intro l tenant limit w hlimit hok
    obtain ⟨compiled, hcompiled, hrows⟩ := rows_of_preview hserves hlimit hok
    refine ⟨compiled, hcompiled, hrows, ?_⟩
    rw [hrows, CellFormatter.formatRows, List.length_map, List.length_take]

end Engine

/-! ## Three customers

A table with three rows, and a run that may show two. -/

/-- The limit on the last line of a statement: the digits at its end. -/
def lastNumber (sql : String) : Nat :=
  Nat.ofDigitChars 10 (sql.toList.reverse.takeWhile Char.isDigit).reverse 0

theorem lastNumber_limited (s : Sql.Statement) (n : Nat) : lastNumber (s.limited n).sql = n := by
  have hdigits : ∀ c ∈ (Nat.toDigits 10 n).reverse, c.isDigit = true := by
    intro c hc
    exact Nat.isDigit_of_mem_toDigits (by decide) (by decide) (List.mem_reverse.mp hc)
  have htext : (s.limited n).sql.toList.reverse
      = (Nat.toDigits 10 n).reverse ++ ' ' :: "TIMIL\n".toList ++ s.sql.toList.reverse := by
    have hnonneg : ¬ (n : Int) < 0 := Int.not_lt.mpr (Int.natCast_nonneg n)
    rw [Sql.Statement.limited, Json.intText, if_neg hnonneg]
    simp
  rw [lastNumber, htext, List.append_assoc, List.takeWhile_append_of_pos hdigits]
  simp [Nat.ofDigitChars_toDigits]

/-- Customers with the sums of their orders, the greatest first. -/
def threeCustomers : List (List Json) :=
  [[.string "CID", .int 9], [.string "ANN", .int 7], [.string "BOB", .int 4]]

/-- A host whose database holds nothing else. -/
def tableHost : Host Unit :=
  { Scheduler.quietHost with
    query := fun request data =>
      (.ok (threeCustomers.take (lastNumber request.statement.sql)), data) }

theorem serves_tableHost : tableHost.Serves fun _ _ => threeCustomers := by
  intro s n timeout cancelled data rows h
  obtain rfl := Except.ok.inj h
  show threeCustomers.take (lastNumber (s.limited n).sql) = _
  rw [lastNumber_limited]

/-- Runs may show two rows. -/
def tableEngine : Engine Unit := { host := tableHost, catalog := shop, limits := { rowCap := 2 } }

/-- A run shows two of the three rows and says that there are more, and so does its record. -/
theorem Engine.rows_within_cap_threeCustomers :
    tableHost.Serves (fun _ _ => threeCustomers) ∧
      tableEngine.limits.rowCap ≤ 2 ^ 63 - 2 ∧ Function.Injective tableHost.executionId ∧
      ∃ (outcome : RunOutcome) (x : ExecutionRow),
        ((tableEngine.execute (salesReport 1 none) { tenant := 1, user := 1 }).run
          Scheduler.office).1 = .ok outcome ∧
        outcome.rows.length = 2 ∧ outcome.truncated = true ∧
        x ∈ ((tableEngine.execute (salesReport 1 none) { tenant := 1, user := 1 }).run
          Scheduler.office).2.store.executions ∧ x.rowCount = some 2 ∧ x.truncated = true := by
  have hcap : tableEngine.limits.rowCap ≤ 2 ^ 63 - 2 := by decide
  obtain ⟨outcome, houtcome⟩ : ∃ outcome, ((tableEngine.execute (salesReport 1 none)
      { tenant := 1, user := 1 }).run Scheduler.office).1 = .ok outcome := ⟨_, rfl⟩
  have hpool := Process.interleaved_run [] []
    (tableEngine.execute (salesReport 1 none) { tenant := 1, user := 1 }) Scheduler.office
  rw [houtcome] at hpool
  obtain ⟨-, -, hruns, -⟩ := Engine.rows_within_cap (e := tableEngine) serves_tableHost hcap
    Scheduler.executionId_injective
  obtain ⟨compiled, v, x, -, -, -, hlength, htruncated, hx, -, -, hcount, hsame⟩ :=
    hruns [(salesReport 1 none, { tenant := 1, user := 1 })] [.ok outcome] Scheduler.office _ hpool
      (fun row hrow => absurd hrow List.not_mem_nil) 0 _ _ outcome rfl rfl
  have hmore : outcome.truncated = true := by
    refine htruncated.mpr ?_
    show 2 < threeCustomers.length
    decide
  exact ⟨serves_tableHost, hcap, Scheduler.executionId_injective, outcome, x, houtcome, hlength,
    hmore, hx, hcount, hsame.trans hmore⟩

end TenantReports
