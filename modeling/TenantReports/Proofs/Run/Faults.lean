import Mathlib.Data.List.Infix
import TenantReports.Proofs.Process.Results
import TenantReports.Proofs.Run.Exports

/-!
# What failed runs tell

A failed run tells the error of the step that failed. All errors are told in words of the program,
but that of a database is told as the database has it. So the message of a failed run, and the
record of the run, have the text of the statement that was run exactly if the error of the database
has it.

## Main definitions

* `Engine.asked`: the statement of a run
* `Engine.Faults`: the faults of a run

## Main results

* `Engine.yields_perform`: with what a run can fail, whatever goes on beside it
* `Engine.Faults.has_statement_iff`: which faults have the text of a statement
* `Engine.failure_has_statement_iff`: when a failed run tells the text of its statement
-/

namespace TenantReports

open Process (Interleaved Visits)

/-! ## Faults of runs -/

namespace Engine

variable {δ : Type} {e : Engine δ} {V : World δ → Prop}

/-- The statement of a run of a compiled report. -/
def asked (e : Engine δ) (compiled : CompiledQuery) (d : Definition) (r : RunRequest) :
    Sql.Statement :=
  ((compiled.applyFilters e.catalog r.filters d.layout).withLimit e.limits.rowsAsked).statement
    e.host.dialect

/-- The database has no rows for a run of a compiled report, in one of the worlds of a set. -/
def Refused (e : Engine δ) (V : World δ → Prop) (compiled : CompiledQuery) (d : Definition)
    (r : RunRequest) (err : QueryError) : Prop :=
  ∃ w, V w ∧ (e.host.query ⟨e.asked compiled d r, e.limits.queryTimeoutSecs, r.cancelled⟩
    w.data).1 = .error err

/-- The faults of a run: one for each step that can fail. -/
inductive Faults (e : Engine δ) (V : World δ → Prop) (d : Definition) (r : RunRequest) :
    Fault → Prop
  | store (err : StoreError) : Faults e V d r (.ofStore err)
  | compile (err : CompileError) : d.layout.compile e.catalog r.tenant = .error err →
      Faults e V d r (.ofCompile err)
  | query (compiled : CompiledQuery) (err : QueryError) :
      d.layout.compile e.catalog r.tenant = .ok compiled → e.Refused V compiled d r err →
      Faults e V d r (.ofQuery err)
  | exportFile (err : ExportError) : Faults e V d r (.ofExport err)

/-- **With what a run fails**, whatever goes on beside it. -/
theorem yields_perform (d : Definition) (r : RunRequest) (x : Execution) :
    World.Yields V (fun _ => True) (e.Faults V d r) (e.perform d r x) := by
  unfold perform
  refine World.yields_after (World.yields_orFail_of_forall .store) fun _ => ?_
  -- the layout is compiled, or fails to
  refine World.yields_bind (fun compiled => d.layout.compile e.catalog r.tenant = .ok compiled)
    (World.yields_orFail ?_) fun compiled hcompiled => ?_
  · cases hcompile : d.layout.compile e.catalog r.tenant with
    | ok compiled => exact Process.ends_pure rfl
    | error err => exact Process.ends_pure (.compile err hcompile)
  refine World.yields_when World.yields_always fun _ => ?_
  -- the statement is run, or refused
  refine World.yields_after (World.yields_orFail (Process.ends_atomically fun w hw => ?_))
    fun found => ?_
  · change World.Answers _ _ (e.host.query
      ⟨e.asked compiled d r, e.limits.queryTimeoutSecs, r.cancelled⟩ w.data).1
    cases hanswer : (e.host.query ⟨e.asked compiled d r, e.limits.queryTimeoutSecs, r.cancelled⟩
        w.data).1 with
    | ok rows => trivial
    | error err => exact .query compiled err hcompiled ⟨w, hw, hanswer⟩
  dsimp only
  -- the rows may be exported, and the record is closed
  cases r.exportAs with
  | none =>
    refine World.yields_after (World.yields_pure trivial) fun artifact =>
      World.yields_after (World.yields_orFail_of_forall .store) fun _ =>
      World.yields_when World.yields_always fun _ => World.yields_pure trivial
  | some format =>
    refine World.yields_after (World.yields_map (World.yields_orFail_of_forall .exportFile))
      fun artifact => World.yields_after (World.yields_orFail_of_forall .store) fun _ =>
      World.yields_when World.yields_always fun _ => World.yields_pure trivial

/-- **With what a run ends that fails.** -/
theorem ends_execute_faults (d : Definition) (r : RunRequest) :
    (e.execute d r).Ends V
      fun answer => ∀ failure, answer = .error failure → e.Faults V d r failure.fault := by
  refine Process.Ends.bind (Process.ends_of_forall fun _ => trivial) fun x (_ : True) => ?_
  refine Process.Ends.bind (yields_perform d r x) fun answer hanswer => ?_
  cases answer with
  | ok outcome => exact Process.ends_pure fun _ h => nomatch h
  | error fault =>
    refine Process.Ends.bind (Process.ends_of_forall fun _ => trivial) fun _ (_ : True) => ?_
    refine Process.ends_pure fun failure hfailure => ?_
    obtain rfl := Except.error.inj hfailure
    exact hanswer

end Engine

/-! ## Texts of statements in messages -/

section Infix

variable {α : Type} {a : α} {text before rest : List α}

/-- A text with a character that another one lacks is no part of it. -/
theorem not_infix_of_mem (ha : a ∈ text) (hrest : a ∉ rest) : ¬ text <:+: rest :=
  fun h => hrest (h.subset ha)

/-- A text is a part of what follows some words that lack its first character, or of nothing. -/
theorem infix_append_iff (hbefore : a ∉ before) :
    a :: text <:+: before ++ rest ↔ a :: text <:+: rest := by
  induction before with
  | nil => rfl
  | cons b before ih =>
    rw [List.mem_cons, not_or] at hbefore
    rw [List.cons_append, List.infix_cons_iff, ih hbefore.2, or_iff_right]
    intro hprefix
    exact hbefore.1 (List.cons_prefix_cons.mp hprefix).1

end Infix

/-- The text of a query begins with its keyword. -/
theorem Sql.Query.text_eq_select (q : Query) (d : Dialect) :
    ∃ rest, (q.statement d).sql.toList = "SELECT".toList ++ rest := by
  have htokens : q.tokens = .keyword .select :: q.tokens.tail := rfl
  refine ⟨renderChars d 1 q.tokens.tail, String.toList_ofList.trans ?_⟩
  rw [htokens]
  rfl

/-- The decimal digits of a number are no letters. -/
theorem not_mem_toString {c : Char} (hc : c.isDigit = false) (n : Nat) :
    c ∉ (toString n).toList := by
  have hdigits : (toString n).toList = Nat.toDigits 10 n := String.toList_ofList
  intro hmem
  rw [hdigits] at hmem
  rw [Nat.isDigit_of_mem_toDigits (by decide) (by decide) hmem] at hc
  cases hc

/-! ## Messages

A query begins with its keyword, of which the letter T is in no message of the program's own. -/

theorem QueryError.message_database (detail : String) :
    (database detail).message = "Query failed: " ++ detail := rfl

/-- The error of a database is told after words of the program, which have no S. -/
theorem QueryError.infix_database_iff {rest : List Char} {detail : String} :
    'S' :: rest <:+: (database detail).message.toList ↔ 'S' :: rest <:+: detail.toList := by
  rw [message_database, String.toList_append, infix_append_iff (by decide)]

theorem QueryError.not_mem_message {err : QueryError} (h : ∀ detail, err ≠ .database detail) :
    'T' ∉ err.message.toList := by
  cases err with
  | timeout secs =>
    have hmessage : (timeout secs).message
        = "Query exceeded the " ++ toString secs ++ "s time limit" := rfl
    simp only [hmessage, String.toList_append, List.mem_append, not_or]
    exact ⟨⟨by decide, not_mem_toString rfl secs⟩, by decide⟩
  | cancelled => decide
  | lockPoisoned => decide
  | database detail => exact absurd rfl (h detail)

theorem ExportError.not_mem_message (err : ExportError) : 'T' ∉ err.message.toList := by
  cases err with
  | csv err =>
    have hmessage : (csv err).message = "CSV export failed: CSV error: found record with "
        ++ toString err.found ++ " fields, "
        ++ ("but the previous record has " ++ toString err.expected ++ " fields") := rfl
    simp only [hmessage, String.toList_append, List.mem_append, not_or]
    exact ⟨⟨⟨by decide, not_mem_toString rfl _⟩, by decide⟩,
      ⟨by decide, not_mem_toString rfl _⟩, by decide⟩
  | sheet err => cases err <;> decide
  | file err => cases err; decide

/-- A failure is told after words of the program, which have no S either. -/
theorem RunFailure.infix_message_iff {f : RunFailure} {rest : List Char} :
    'S' :: rest <:+: f.message.toList ↔ 'S' :: rest <:+: f.fault.message.toList := by
  have hmessage : f.message
      = "Execution failed (" ++ Named.name f.fault.kind ++ "): " ++ f.fault.message := rfl
  rw [hmessage, String.toList_append, infix_append_iff]
  cases f.fault.kind <;> decide

namespace Engine

variable {δ : Type} {e : Engine δ} {V : World δ → Prop} {d : Definition} {r : RunRequest}
  {compiled : CompiledQuery}

/-- The text of the statement of a run begins with its keyword. -/
theorem sql_asked (e : Engine δ) (compiled : CompiledQuery) (d : Definition) (r : RunRequest) :
    ∃ rest, (e.asked compiled d r).sql.toList = "SELECT".toList ++ rest :=
  Sql.Query.text_eq_select _ _

/-- **Which faults have the text of the statement**: errors of the database that have it. -/
theorem Faults.has_statement_iff {fault : Fault} (h : e.Faults V d r fault)
    (hstore : fault.kind ≠ .store)
    (hcompiled : d.layout.compile e.catalog r.tenant = .ok compiled) :
    (e.asked compiled d r).sql.toList <:+: fault.message.toList ↔
      ∃ detail, fault = .ofQuery (.database detail) ∧
        e.Refused V compiled d r (.database detail) ∧
        (e.asked compiled d r).sql.toList <:+: detail.toList := by
  obtain ⟨rest, hsql⟩ := e.sql_asked compiled d r
  have hletter : 'T' ∈ (e.asked compiled d r).sql.toList := by
    rw [hsql]
    exact List.mem_append_left rest (by decide)
  constructor
  · intro hwithin
    cases h with
    | store err => exact absurd rfl hstore
    | compile err herror =>
      rw [hcompiled] at herror
      cases herror
    | query compiled' err hcompiled' hrefused =>
      obtain rfl := Except.ok.inj (hcompiled'.symm.trans hcompiled)
      by_cases hdatabase : ∃ detail, err = .database detail
      · obtain ⟨detail, rfl⟩ := hdatabase
        refine ⟨detail, rfl, hrefused, ?_⟩
        rw [hsql] at hwithin ⊢
        exact QueryError.infix_database_iff.mp hwithin
      · exact absurd hwithin (not_infix_of_mem hletter (QueryError.not_mem_message fun detail h =>
          hdatabase ⟨detail, h⟩))
    | exportFile err => exact absurd hwithin (not_infix_of_mem hletter err.not_mem_message)
  · rintro ⟨detail, rfl, -, hwithin⟩
    rw [hsql] at hwithin ⊢
    exact QueryError.infix_database_iff.mpr hwithin

section Pool

variable {runs : List (Definition × RunRequest)} {answers : List (Except RunFailure RunOutcome)}
  {w w' : World δ} (h : Interleaved (runs.map fun x => e.execute x.1 x.2) w (answers.map .done) w')
  {i : Nat}

include h

/-- The faults of the runs of a pool: each comes of a step in one of the worlds on the way. -/
theorem faults_of_interleaved {failure : RunFailure} (hrun : runs[i]? = some (d, r))
    (hanswer : answers[i]? = some (.error failure)) :
    e.Faults (Visits (runs.map fun x => e.execute x.1 x.2) w (answers.map .done) w') d r
      failure.fault := by
  let visited := Visits (runs.map fun x => e.execute x.1 x.2) w (answers.map .done) w'
  let posts := runs.map fun x (answer : Except RunFailure RunOutcome) =>
    ∀ failure, answer = .error failure → e.Faults visited x.1 x.2 failure.fault
  have hstart : List.Forall₂ (fun post p => Process.Ends visited post p) posts
      (runs.map fun x => e.execute x.1 x.2) := by
    rw [List.forall₂_map_left_iff, List.forall₂_map_right_iff, List.forall₂_same]
    exact fun x _ => ends_execute_faults x.1 x.2
  have hends := h.ends (fun _ hv => hv) hstart
  rw [List.forall₂_map_left_iff, List.forall₂_map_right_iff] at hends
  obtain ⟨answer, hat, hfaults⟩ := exists_getElem?_of_forall₂ hends hrun
  obtain rfl := Option.some.inj (hat.symm.trans hanswer)
  exact hfaults failure rfl

/-- The record of a run of a pool, which is among those of the store. -/
theorem exists_record_of_answer (hids : Function.Injective e.host.executionId)
    (hfresh : ∀ row ∈ w.store.executions, ¬ e.host.coming w.issued row.id)
    {answer : Except RunFailure RunOutcome} (hrun : runs[i]? = some (d, r))
    (hanswer : answers[i]? = some answer) :
    ∃ a x, e.Settled d r answer a ∧ a.record = some x ∧ x ∈ w'.store.executions := by
  obtain ⟨ns, rfl, hsettled, hbooks⟩ := exists_records h hids hfresh
  obtain ⟨⟨⟨d', r'⟩, a⟩, hn, hlabel, hnote⟩ := Process.exists_note_of_index hsettled hanswer
  obtain ⟨rfl, rfl⟩ : d' = d ∧ r' = r := Prod.mk.inj (Option.some.inj (hlabel.symm.trans hrun))
  obtain ⟨x, hx, -⟩ := id hnote
  have hrecord : a.record = some x := congrArg Attempt.record hx
  obtain ⟨news, hnews⟩ := hbooks.records
  refine ⟨a, x, hnote, hrecord, ?_⟩
  rw [hnews.executions]
  refine List.mem_append_right _ ?_
  rw [← Multiset.mem_coe, hnews.noted, Multiset.mem_filterMap]
  exact ⟨a, Multiset.mem_coe.mpr (List.mem_map_of_mem hn), hrecord⟩

/-- **When a failed run tells the text of its statement**, beside any other runs. Its record has the
message of the failure. The message has the text of the statement exactly if the database refused
that statement, in a world on the way of the pool, with an error that has it; and nothing more is
told of the failure as a whole. -/
theorem failure_has_statement_iff (hids : Function.Injective e.host.executionId)
    (hfresh : ∀ row ∈ w.store.executions, ¬ e.host.coming w.issued row.id)
    {failure : RunFailure} (hrun : runs[i]? = some (d, r))
    (hanswer : answers[i]? = some (.error failure))
    (hcompiled : d.layout.compile e.catalog r.tenant = .ok compiled) :
    (∃ x ∈ w'.store.executions, x.id = failure.execution ∧ x.status = .failed ∧
        x.error = some failure.fault.message) ∧
      ((e.asked compiled d r).sql.toList <:+: failure.fault.message.toList ↔
        ∃ detail, failure.fault = .ofQuery (.database detail) ∧
          e.Refused (Visits (runs.map fun x => e.execute x.1 x.2) w (answers.map .done) w') compiled
            d r (.database detail) ∧
          (e.asked compiled d r).sql.toList <:+: detail.toList) ∧
      ((e.asked compiled d r).sql.toList <:+: failure.message.toList ↔
        (e.asked compiled d r).sql.toList <:+: failure.fault.message.toList) := by
  obtain ⟨a, x, ⟨x', ha, -, htells, hfault⟩, hx, hmem⟩ :=
    exists_record_of_answer h hids hfresh hrun hanswer
  rw [ha] at hx
  obtain rfl := Option.some.inj hx
  obtain ⟨hstatus, hid, herror⟩ := htells
  refine ⟨⟨x', hmem, hid, hstatus, herror⟩,
    (faults_of_interleaved h hrun hanswer).has_statement_iff hfault.2 hcompiled, ?_⟩
  obtain ⟨rest, hsql⟩ := e.sql_asked compiled d r
  rw [hsql]
  exact RunFailure.infix_message_iff

end Pool

end Engine

/-! ## A column that is gone

The database of the shop has lost a column, and tells so with the statement that asked for it. -/

/-- What the database tells of a statement. -/
def lostColumn (sql : String) : String :=
  "no such column: orders.total in " ++ sql ++ " at offset 60"

/-- A host whose database has lost a column. -/
def quotingHost : Host Unit :=
  { Scheduler.quietHost with
    query := fun request data => (.error (.database (lostColumn request.statement.sql)), data) }

/-- Runs over that database. -/
def quotingEngine : Engine Unit := { host := quotingHost, catalog := shop }

/-- The failure of a run of a statement. -/
def lostFailure (sql : String) : RunFailure := ⟨"0", .ofQuery (.database (lostColumn sql))⟩

theorem infix_lostColumn (sql : String) : sql.toList <:+: (lostColumn sql).toList := by
  unfold lostColumn
  rw [String.toList_append, String.toList_append]
  exact List.infix_append _ _ _

theorem infix_lostFailure (sql : String) :
    sql.toList <:+: (lostFailure sql).fault.message.toList := by
  unfold lostFailure Fault.ofQuery
  rw [QueryError.message_database, String.toList_append]
  exact (infix_lostColumn sql).trans (List.suffix_append _ _).isInfix

theorem exists_lostFailure :
    let run := (quotingEngine.execute (salesReport 1 none) { tenant := 1, user := 1 }).run
      Scheduler.office
    ∃ (compiled : CompiledQuery) (sql : String) (x : ExecutionRow),
      (salesReport 1 none).layout.compile shop 1 = .ok compiled ∧
      (quotingEngine.asked compiled (salesReport 1 none) { tenant := 1, user := 1 }).sql = sql ∧
      run.1 = .error (lostFailure sql) ∧ run.2.store.executions = [x] ∧
      x.id = (lostFailure sql).execution ∧ x.error = some (lostFailure sql).fault.message :=
  ⟨_, _, _, rfl, rfl, rfl, rfl, rfl, rfl⟩

/-- The failure of that run and its record have the text of the statement, as the database told
it. -/
theorem Engine.failure_has_statement_iff_lostColumn :
    let run := (quotingEngine.execute (salesReport 1 none) { tenant := 1, user := 1 }).run
      Scheduler.office
    Function.Injective quotingHost.executionId ∧
      (∀ row ∈ Scheduler.office.store.executions,
        ¬ quotingHost.coming Scheduler.office.issued row.id) ∧
      ∃ (compiled : CompiledQuery) (failure : RunFailure) (detail : String),
        run.1 = .error failure ∧ (salesReport 1 none).layout.compile shop 1 = .ok compiled ∧
        (∃ x ∈ run.2.store.executions, x.id = failure.execution ∧
          x.error = some failure.fault.message) ∧
        failure.fault = .ofQuery (.database detail) ∧
        (quotingEngine.asked compiled (salesReport 1 none) { tenant := 1, user := 1 }).sql.toList
          <:+: detail.toList := by
  intro run
  have hfresh : ∀ row ∈ Scheduler.office.store.executions,
      ¬ quotingHost.coming Scheduler.office.issued row.id :=
    fun row hrow => absurd hrow List.not_mem_nil
  obtain ⟨compiled, sql, -, hcompiled, hsql, hfailure, -⟩ := exists_lostFailure
  let runs : List (Definition × RunRequest) := [(salesReport 1 none, { tenant := 1, user := 1 })]
  have hpool : Interleaved (runs.map fun x => quotingEngine.execute x.1 x.2) Scheduler.office
      (List.map .done [.error (lostFailure sql)]) run.2 := by
    rw [← hfailure]
    exact Process.interleaved_run [] [] _ _
  obtain ⟨⟨x, hx, hid, -, herror⟩, htells, -⟩ := Engine.failure_has_statement_iff hpool
    (i := 0) Scheduler.executionId_injective hfresh rfl rfl hcompiled
  rw [hsql] at htells
  obtain ⟨detail, hfault, -, hwithin⟩ := htells.mp (infix_lostFailure sql)
  rw [← hsql] at hwithin
  exact ⟨Scheduler.executionId_injective, hfresh, compiled, lostFailure sql, detail, hfailure,
    hcompiled, ⟨x, hx, hid, herror⟩, hfault, hwithin⟩

/-- A run fails, and its failure and its record have the text of the statement that was run. -/
theorem exists_statement_told :
    let run := (quotingEngine.execute (salesReport 1 none) { tenant := 1, user := 1 }).run
      Scheduler.office
    ∃ (compiled : CompiledQuery) (failure : RunFailure) (x : ExecutionRow),
      (salesReport 1 none).layout.compile shop 1 = .ok compiled ∧
      run.1 = .error failure ∧ run.2.store.executions = [x] ∧ x.id = failure.execution ∧
      x.error = some failure.fault.message ∧
      (quotingEngine.asked compiled (salesReport 1 none) { tenant := 1, user := 1 }).sql.toList
        <:+: failure.fault.message.toList := by
  obtain ⟨compiled, sql, x, hcompiled, hsql, hfailure, hrecords, hid, herror⟩ := exists_lostFailure
  refine ⟨compiled, lostFailure sql, x, hcompiled, hfailure, hrecords, hid, herror, ?_⟩
  rw [hsql]
  exact infix_lostFailure sql

end TenantReports
