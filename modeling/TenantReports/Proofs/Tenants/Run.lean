import TenantReports.Proofs.Export.Names
import TenantReports.Proofs.Run.Accounts
import TenantReports.Proofs.Tenants.Changes

/-!
# The same run twice

One report is run from two worlds that have different stores, fresh ids and times, but the same
data. Step by step the runs do the same: they succeed or fail alike, their records are twins at all
times, and both count for the report or neither does. At every step a record is found by its id,
so that id may not be that of an older record.

## Main definitions

* `Engine.Counted`: two stores in which a run counted for a report, or did not
* `Engine.Abreast`: two runs that are equally far

## Main results

* `Engine.Abreast.moves`, `Engine.pair_count`, `Engine.pair_exportResult`: the steps of a run
* `Engine.pair_perform`, `Engine.pair_execute`: the runs end alike
-/

namespace TenantReports

open Process (Pair)
open Time (Instant)

variable {δ : Type}

/-- A record that is the last one is moved on. -/
theorem Store.moveExecution_last {s : Store} {older : List ExecutionRow} {x : ExecutionRow}
    (hrows : s.executions = older ++ [x]) (hfresh : ∀ r ∈ older, r.id ≠ x.id) {status : Status}
    (hmay : x.status.CanBecome status) (f : ExecutionRow → ExecutionRow) :
    s.moveExecution x.id status f
      = (.ok (), { s with executions := older ++ [{ f x with status }] }) := by
  have hfind : s.executions.find? (·.id == x.id) = some x := by
    rw [hrows]
    exact find?_concat_of_fresh (fun r hr => beq_eq_false_iff_ne.mpr (hfresh r hr)) BEq.rfl
  have holder : (older.map fun r => if r.id == x.id then { f r with status } else r) = older := by
    conv_rhs => rw [← List.map_id older]
    exact List.map_congr_left fun r hr => if_neg (by simpa using hfresh r hr)
  rw [moveExecution, hfind]
  dsimp only
  rw [if_pos hmay, hrows, List.map_append, holder, List.map_singleton, if_pos BEq.rfl]

namespace Engine

/-- In both stores one run more counts for a report, at paired times, or in neither. -/
inductive Counted (m : Pairing) (report : Int × Int) (s s' t t' : Store) : Bool → Prop
  | not (h : t.definitions = s.definitions) (h' : t'.definitions = s'.definitions) :
    Counted m report s s' t t' false
  | once {a b : Instant} (hab : m.time a b)
      (h : t.definitions = (s.recordAttempt report.1 report.2 a).2.definitions)
      (h' : t'.definitions = (s'.recordAttempt report.1 report.2 b).2.definitions) :
    Counted m report s s' t t' true

/-- Two runs of a report that began in two worlds, one record each, and are equally far. -/
structure Abreast (m : Pairing) (report : Int × Int) (u u' : World δ) (counted : Bool)
    (x x' : ExecutionRow) (w w' : World δ) : Prop where
  data : w.data = w'.data
  readings : ∃ n, w.readings = u.readings + n ∧ w'.readings = u'.readings + n
  executions : w.store.executions = u.store.executions ++ [x]
  executions' : w'.store.executions = u'.store.executions ++ [x']
  fresh : ∀ r ∈ u.store.executions, r.id ≠ x.id
  fresh' : ∀ r ∈ u'.store.executions, r.id ≠ x'.id
  tenant : x.tenant = report.1
  records : x.Twin m x'
  counts : Counted m report u.store u'.store w.store w'.store counted

variable {e : Engine δ} {m : Pairing} {report : Int × Int} {u u' w w' : World δ} {counted : Bool}
  {x x' : ExecutionRow} {ε α : Type}

/-- What is done to files and directories does not matter. -/
theorem Abreast.elsewhere (h : Abreast m report u u' counted x x' w w')
    (directories directories' : List String) (files files' : List (String × FileContent)) :
    Abreast m report u u' counted x x' { w with directories, files }
      { w' with directories := directories', files := files' } :=
  ⟨h.data, h.readings, h.executions, h.executions', h.fresh, h.fresh', h.tenant, h.records,
    h.counts⟩

/-- **The same query to the same data** has the same answer. -/
theorem pair_fetch (hdata : w.data = w'.data) (c : CompiledQuery) (cancelled : Bool) :
    Pair (e.fetch c cancelled) (e.fetch c cancelled) w w' fun a b v v' =>
      a = b ∧ ∃ data, v = { w with data } ∧ v' = { w' with data } := by
  unfold fetch Pair
  rw [Process.run_atomically, Process.run_atomically]
  dsimp only
  rw [← hdata]
  exact ⟨rfl, _, rfl, rfl⟩

section Clock

variable (htime : ∀ n, m.time (e.host.clock (u.readings + n)) (e.host.clock (u'.readings + n)))

include htime

/-- The next readings are paired. -/
theorem Abreast.now (h : Abreast m report u u' counted x x' w w') :
    m.time (e.host.clock w.readings) (e.host.clock w'.readings) ∧
      ∃ n, w.readings + 1 = u.readings + n ∧ w'.readings + 1 = u'.readings + n := by
  obtain ⟨n, hn, hn'⟩ := h.readings
  rw [hn, hn']
  exact ⟨htime n, n + 1, rfl, rfl⟩

/-- **Both records are moved on.** -/
theorem Abreast.moves (h : Abreast m report u u' counted x x' w w') {status : Status}
    (hmay : x.status.CanBecome status) {f f' : Instant → ExecutionRow → ExecutionRow}
    (hf : ∀ now, (f now x).id = x.id ∧ (f now x).tenant = x.tenant)
    (hf' : ∀ now, (f' now x').id = x'.id)
    (htwin : ∀ a b, m.time a b →
      ExecutionRow.Twin m { f a x with status } { f' b x' with status }) :
    Pair (World.onStoreNow e.host fun now s => s.moveExecution x.id status (f now))
      (World.onStoreNow e.host fun now s => s.moveExecution x'.id status (f' now)) w w'
      fun a b v v' => a = .ok () ∧ b = .ok () ∧ ∃ now now', m.time now now' ∧
        Abreast m report u u' counted { f now x with status } { f' now' x' with status } v v' := by
  obtain ⟨hnow, hreadings⟩ := h.now htime
  have hmay' : x'.status.CanBecome status := by
    have hstatus : x'.status = x.status := by rw [h.records.rest]
    rwa [hstatus]
  unfold Pair
  rw [World.run_onStoreNow, World.run_onStoreNow,
    Store.moveExecution_last h.executions h.fresh hmay,
    Store.moveExecution_last h.executions' h.fresh' hmay']
  refine ⟨rfl, rfl, _, _, hnow, ?_⟩
  exact {
    data := h.data
    readings := hreadings
    executions := rfl
    executions' := rfl
    fresh r hr := by
      change r.id ≠ (f _ x).id
      rw [(hf _).1]
      exact h.fresh r hr
    fresh' r hr := by
      change r.id ≠ (f' _ x').id
      rw [hf']
      exact h.fresh' r hr
    tenant := (hf _).2.trans h.tenant
    records := htwin _ _ hnow
    counts := by
      cases h.counts with
      | not hsame hsame' => exact .not hsame hsame'
      | once hab hcount hcount' => exact .once hab hcount hcount' }

/-- **Both runs count**, under the same condition. -/
theorem pair_count {d : Definition} {c : Bool} {f g : Unit → World.Op δ ε α}
    {post : Except ε α → Except ε α → World δ → World δ → Prop} (hc : c = true → counted = false)
    (h : Abreast m (d.tenant, d.id) u u' counted x x' w w')
    (hfg : ∀ v v', Abreast m (d.tenant, d.id) u u' (counted || c) x x' v v' →
      Pair (f ()).run (g ()).run v v' post) :
    Pair (if c = true then World.always (e.recordAttempt d) >>= f else f ()).run
      (if c = true then World.always (e.recordAttempt d) >>= g else g ()).run w w' post := by
  cases c with
  | false =>
    rw [Bool.or_false] at hfg
    exact hfg w w' h
  | true =>
    obtain rfl := hc rfl
    obtain ⟨hnow, hreadings⟩ := h.now htime
    refine World.pair_op_bind (World.pair_always (.ok (hfg _ _ ?_)))
    have hcounts : ∀ (s t : Store) (now : Instant), t.definitions = s.definitions →
        (t.recordAttempt d.tenant d.id now).2.definitions
          = (s.recordAttempt d.tenant d.id now).2.definitions := by
      intro s t now hsame
      rw [Store.recordAttempt_snd, Store.recordAttempt_snd, Store.changeDefinition,
        Store.changeDefinition, hsame]
    have hexecutions : ∀ (t : Store) (now : Instant),
        (t.recordAttempt d.tenant d.id now).2.executions = t.executions := by
      intro t now
      rw [Store.recordAttempt_snd]
      rfl
    exact {
      data := h.data
      readings := hreadings
      executions := (hexecutions _ _).trans h.executions
      executions' := (hexecutions _ _).trans h.executions'
      fresh := h.fresh
      fresh' := h.fresh'
      tenant := h.tenant
      records := h.records
      counts := by
        cases h.counts with
        | not hsame hsame' => exact .once hnow (hcounts _ _ _ hsame) (hcounts _ _ _ hsame') }

/-- **Both results are exported**, under names of the same length. -/
theorem pair_exportResult (hm : m.Readable) (h : Abreast m report u u' counted x x' w w')
    (format : ExportFormat) (name : String) (columns : List OutputColumn)
    (rows : List (List Json)) :
    Pair (e.exportResult format name columns rows) (e.exportResult format name columns rows) w w'
      fun a b v v' => Abreast m report u u' counted x x' v v' ∧
        Except.Rel Eq (Artifact.Twin m) a b := by
  obtain ⟨hnow, hreadings⟩ := h.now htime
  have hlater : Abreast m report u u' counted x x' (w.now e.host).2 (w'.now e.host).2 :=
    { h with readings := hreadings }
  -- a name that is too long for one run is too long for the other
  have hsize : (exportFilename name format (e.host.clock w.readings)).utf8ByteSize
      = (exportFilename name format (e.host.clock w'.readings)).utf8ByteSize := by
    rcases hm _ _ hnow with hsame | ⟨hplain, hplain'⟩
    · rw [hsame]
    · exact exportFilename_size name format hplain hplain'
  unfold exportResult exportRows Pair
  rw [Process.run_atomically, Process.run_atomically]
  cases exportContent format (columns.map (·.label)) rows with
  | error err => exact ⟨hlater, .error rfl⟩
  | ok content =>
    cases e.exportDir with
    | none => exact ⟨hlater, .ok ⟨.of name format hnow, .none, rfl⟩⟩
    | some dir =>
      dsimp only [pure, Except.pure, bind, Except.bind, World.now]
      unfold World.saveFile
      dsimp only
      rw [hsize]
      by_cases hlong : maxFileName
          < (exportFilename name format (e.host.clock w'.readings)).utf8ByteSize
      · simp only [if_pos hlong]
        exact ⟨hlater.elsewhere _ _ _ _, .error rfl⟩
      · simp only [if_neg hlong]
        refine ⟨hlater.elsewhere _ _ _ _, .ok ⟨.of name format hnow, .some ?_, rfl⟩⟩
        exact .inside dir (.of name format hnow)

/-- How the steps of two runs may end: alike, and a run that went wrong is still to be closed. -/
def EndAlike (m : Pairing) (report : Int × Int) (u u' : World δ) (id id' : String)
    (answer answer' : Except Fault RunOutcome) (w w' : World δ) : Prop :=
  ∃ counted x x', Abreast m report u u' counted x x' w w' ∧ x.id = id ∧ x'.id = id' ∧
    Except.Rel (fun fault fault' => fault = fault' ∧ x.status = .processing) (RunOutcome.Twin m)
      answer answer'

/-- The last steps of runs that went well. -/
theorem pair_complete {d : Definition} (o o' : RunOutcome)
    (h : Abreast m (d.tenant, d.id) u u' e.countFailed x x' w w')
    (hprocessing : x.status = .processing) {started started' : Instant}
    (hstarted : m.time started started') (ho : o.Twin m o') :
    Pair (do
        World.orFail .ofStore (World.onStoreNow e.host fun now s =>
          s.markCompleted x.id ⟨o.rows.length, elapsedMs started now, o.truncated,
            o.artifact.bind (·.path)⟩ now)
        if !e.countFailed then e.recordAttempt d
        return o : World.Op δ Fault RunOutcome).run (do
        World.orFail .ofStore (World.onStoreNow e.host fun now s =>
          s.markCompleted x'.id ⟨o'.rows.length, elapsedMs started' now, o'.truncated,
            o'.artifact.bind (·.path)⟩ now)
        if !e.countFailed then e.recordAttempt d
        return o' : World.Op δ Fault RunOutcome).run w w'
      (EndAlike m (d.tenant, d.id) u u' x.id x'.id) := by
  have hrows : o'.rows = o.rows := by rw [ho.rest]
  have htruncated : o'.truncated = o.truncated := by rw [ho.rest]
  have hpath : Option.Rel m.Path (o.artifact.bind (·.path)) (o'.artifact.bind (·.path)) :=
    optionRel_bind ho.artifact fun _ _ hartifact => hartifact.path
  rw [hrows, htruncated]
  refine World.pair_op_bind (World.pair_orFail ?_)
  refine (h.moves htime (by rw [hprocessing]; decide) (fun _ => ⟨rfl, rfl⟩) (fun _ => rfl) ?_).mono
    ?_
  · intro a b hab
    have hrecords := h.records
    exact ⟨hrecords.id, hrecords.createdAt, hrecords.startedAt, .some (.of hab),
      .some (.between hstarted hab), hpath, by rw [hrecords.rest]⟩
  · rintro _ _ v v' ⟨rfl, rfl, now, now', -, hcompleted⟩
    refine .ok (pair_count htime (by simp) hcompleted fun v v' hended => ?_)
    exact ⟨_, _, _, hended, rfl, rfl, .ok ho⟩

/-- **The steps of two runs end alike.** -/
theorem pair_perform (hm : m.Readable) {d : Definition} {r : RunRequest} {y y' : Execution}
    (h : Abreast m (d.tenant, d.id) u u' false x x' w w') (hid : x.id = y.id) (hid' : x'.id = y'.id)
    (hpending : x.status = .pending) (hcreated : m.time y.createdAt y'.createdAt) :
    Pair (e.perform d r y).run (e.perform d r y').run w w'
      (EndAlike m (d.tenant, d.id) u u' y.id y'.id) := by
  unfold perform
  rw [← hid, ← hid']
  -- the records are marked as being processed
  refine World.pair_op_bind (World.pair_orFail ?_)
  refine (h.moves htime (by rw [hpending]; decide) (fun _ => ⟨rfl, rfl⟩) (fun _ => rfl) ?_).mono
    ?_
  · intro a b hab
    have hrecords := h.records
    exact ⟨hrecords.id, hrecords.createdAt, .some (.of hab), hrecords.completedAt,
      hrecords.durationMs, hrecords.exportPath, by rw [hrecords.rest]⟩
  rintro _ _ v v' ⟨rfl, rfl, now, now', -, hprocessing⟩
  refine .ok ?_
  obtain ⟨z, z', hz, hz', hstatus, hprocessing⟩ : ∃ z z', z.id = x.id ∧ z'.id = x'.id ∧
      z.status = .processing ∧ Abreast m (d.tenant, d.id) u u' false z z' v v' :=
    ⟨_, _, rfl, rfl, rfl, hprocessing⟩
  rw [← hz, ← hz']
  have hfailed : ∀ {counted : Bool} {v v' : World δ} (fault : Fault),
      Abreast m (d.tenant, d.id) u u' counted z z' v v' →
      EndAlike m (d.tenant, d.id) u u' z.id z'.id (.error fault) (.error fault) v v' :=
    fun fault h => ⟨_, _, _, h, rfl, rfl, .error ⟨rfl, hstatus⟩⟩
  -- the layout is compiled
  refine World.pair_pure_bind (fun err _ => hfailed _ hprocessing) fun compiled _ => ?_
  refine pair_count htime (fun _ => rfl) hprocessing fun v v' hcounted => ?_
  rw [Bool.false_or] at hcounted
  -- the data are the same, and so are the rows
  refine World.pair_op_bind (World.pair_orFail ((pair_fetch hcounted.data _ _).mono ?_))
  rintro answer _ _ _ ⟨rfl, data, rfl, rfl⟩
  have hfetched : Abreast m (d.tenant, d.id) u u' e.countFailed z z' { v with data }
      { v' with data } := { hcounted with data := rfl }
  cases answer with
  | error err => exact .error (hfailed _ hfetched)
  | ok found =>
    refine .ok ?_
    cases r.exportAs with
    | none =>
      refine World.pair_op_bind (.ok ?_)
      exact pair_complete htime ⟨z.id, _, _, _, none⟩ ⟨z'.id, _, _, _, none⟩ hfetched hstatus
        hcreated ⟨hfetched.records.id, .none, rfl⟩
    | some format =>
      refine World.pair_op_bind (World.pair_op_map (World.pair_orFail ?_))
      refine (pair_exportResult htime hm hfetched format d.name _ _).mono ?_
      rintro answer answer' v v' ⟨hexported, hartifacts⟩
      cases hartifacts with
      | error herror =>
        subst herror
        exact .error (hfailed _ hexported)
      | @ok a a' hartifact =>
        refine .ok ?_
        exact pair_complete htime ⟨z.id, _, _, _, some a⟩ ⟨z'.id, _, _, _, some a'⟩ hexported
          hstatus hcreated ⟨hexported.records.id, .some hartifact, rfl⟩

/-- How two runs end: alike, with twins as their records. -/
def RanAlike (m : Pairing) (report : Int × Int) (u u' : World δ)
    (answer answer' : Except RunFailure RunOutcome) (w w' : World δ) : Prop :=
  ∃ counted x x', Abreast m report u u' counted x x' w w' ∧
    Except.Rel (fun f f' => m.execution f.execution f'.execution ∧ f.fault = f'.fault)
      (RunOutcome.Twin m) answer answer'

/-- **Two runs whose records are there end alike**, also where they go wrong. -/
theorem pair_settle (hm : m.Readable) {d : Definition} {r : RunRequest} {y y' : Execution}
    (h : Abreast m (d.tenant, d.id) u u' false x x' w w') (hid : x.id = y.id) (hid' : x'.id = y'.id)
    (hpending : x.status = .pending) (hcreated : m.time y.createdAt y'.createdAt) :
    Pair (e.settle d r y) (e.settle d r y') w w' (RanAlike m (d.tenant, d.id) u u') := by
  refine Process.pair_bind ((pair_perform htime hm h hid hid' hpending hcreated).mono ?_)
  rintro answer answer' v v' ⟨counted, z, z', hz, hzid, hzid', hend⟩
  cases hend with
  | ok ho => exact ⟨counted, z, z', hz, .ok ho⟩
  | @error fault _ herror =>
    -- no record that is still being processed is left behind
    obtain ⟨rfl, hprocessing⟩ := herror
    dsimp only
    rw [← hzid, ← hzid']
    refine Process.pair_bind ((hz.moves htime (by rw [hprocessing]; decide) (fun _ => ⟨rfl, rfl⟩)
      (fun _ => rfl) ?_).mono ?_)
    · intro a b hab
      have hrecords := hz.records
      exact ⟨hrecords.id, hrecords.createdAt, hrecords.startedAt, .some (.of hab),
        .some (.between hcreated hab), hrecords.exportPath, by rw [hrecords.rest]⟩
    · rintro _ _ v v' ⟨-, -, now, now', -, hfailed⟩
      exact ⟨counted, _, _, hfailed, .error ⟨hz.records.id, rfl⟩⟩

/-- **A report that is run twice** is run alike. -/
theorem pair_execute (hm : m.Readable) {d : Definition} {r : RunRequest}
    (htenant : d.tenant = r.tenant) (hdata : u.data = u'.data)
    (hid : m.execution (e.host.executionId u.issued) (e.host.executionId u'.issued))
    (hfresh : ∀ row ∈ u.store.executions, row.id ≠ e.host.executionId u.issued)
    (hfresh' : ∀ row ∈ u'.store.executions, row.id ≠ e.host.executionId u'.issued) :
    Pair (e.execute d r) (e.execute d r) u u' (RanAlike m (d.tenant, d.id) u u') := by
  have hnow : m.time (e.host.clock u.readings) (e.host.clock u'.readings) := htime 0
  let new : NewExecution := ⟨d.id, r.user, r.tenant, r.filters, r.trigger, r.schedule⟩
  have hopened : Abreast m (d.tenant, d.id) u u' false
      (.opened (e.host.executionId u.issued) new (e.host.clock u.readings))
      (.opened (e.host.executionId u'.issued) new (e.host.clock u'.readings))
      ((e.openExecution d r).run u).2 ((e.openExecution d r).run u').2 := {
    data := hdata
    readings := ⟨1, rfl, rfl⟩
    executions := rfl
    executions' := rfl
    fresh := hfresh
    fresh' := hfresh'
    tenant := htenant.symm
    records := ⟨hid, .of hnow, .none, .none, .none, .none, rfl⟩
    counts := .not rfl rfl }
  rw [execute_eq]
  exact Process.pair_bind (pair_settle htime hm hopened rfl rfl rfl hnow)

end Clock

/-- A run that counted for a report of a tenant left the rows of others alone. -/
theorem Counted.apart {s s' t t' : Store} (h : Counted m report s s' t t' counted)
    (hids : m.KeepsIds) (hown : s.own report.1 = s'.own report.1) :
    ∃ v v' : Store, t.definitions = v.definitions ∧ t'.definitions = v'.definitions ∧
      (v.executions, v.schedules) = (s.executions, s.schedules) ∧
      (v'.executions, v'.schedules) = (s'.executions, s'.schedules) ∧
      Store.Apart m report.1 s s' v v' := by
  cases h with
  | not h h' => exact ⟨s, s', h, h', rfl, rfl, .refl hids hown⟩
  | @once a b hab h h' =>
    refine ⟨_, _, h, h', ?_, ?_, ?_⟩
    · rw [Store.recordAttempt_snd]
      rfl
    · rw [Store.recordAttempt_snd]
      rfl
    · exact Store.apart_recordAttempt hids hab hown report.2

/-- **Runs leave the rows of others alone**, and twins of the rows of their tenant. -/
theorem Abreast.apart (h : Abreast m report u u' counted x x' w w') (hids : m.KeepsIds)
    (hown : u.store.own report.1 = u'.store.own report.1)
    (hschedules : w.store.schedules = u.store.schedules)
    (hschedules' : w'.store.schedules = u'.store.schedules) :
    Store.Apart m report.1 u.store u'.store w.store w'.store := by
  obtain ⟨v, v', hdefinitions, hdefinitions', hv, hv', hcounted⟩ := h.counts.apart hids hown
  simp only [Prod.mk.injEq] at hv hv'
  have htenant' : x'.tenant = report.1 := h.records.tenant.trans h.tenant
  have hexecutions : w.store.executions = v.executions ++ [x] := by rw [h.executions, hv.1]
  have hexecutions' : w'.store.executions = v'.executions ++ [x'] := by rw [h.executions', hv'.1]
  rw [← hv.2] at hschedules
  rw [← hv'.2] at hschedules'
  refine ⟨?_, ?_, ?_⟩
  · rw [Store.own_append_execution h.tenant hdefinitions hexecutions hschedules,
      Store.own_append_execution htenant' hdefinitions' hexecutions' hschedules']
    exact ⟨hcounted.rows.definitions,
      List.rel_append hcounted.rows.executions (.cons h.records .nil), hcounted.rows.schedules⟩
  · rw [Store.others_append_execution h.tenant hdefinitions hexecutions hschedules]
    exact hcounted.others
  · rw [Store.others_append_execution htenant' hdefinitions' hexecutions' hschedules']
    exact hcounted.others'

end Engine

end TenantReports
