import TenantReports.Proofs.Export.Names
import TenantReports.Proofs.Run.Accounts

/-!
# Files of runs

All runs save their files in one directory, under names made of the report, the format and the
second. Two runs may come to the same name, also those of different tenants; then the file of the
first one is written over. So at the end there is under each name what one of the runs saved that
came to it.

## Main definitions

* `Artifact.IsOf`: the file of a report
* `Engine.Filed`: under each path there is what a run saved
* `Engine.Filing`: what a run has made in the end
* `Engine.Exports`: a run of a pool answered with a file

## Main results

* `Engine.maintains_files`: what a run does to the files, whatever goes on beside it
* `Engine.export_kept_or_overwritten`: the files after any number of runs
-/

namespace TenantReports

open Process (Each Interleaved Maintains)
open Time (Instant)

/-! ## Paths -/

/-- Names in a directory are told apart by their paths. -/
theorem joinPath_inj {dir name name' : String} :
    joinPath dir name = joinPath dir name' ↔ name = name' := by
  constructor
  · intro h
    unfold joinPath at h
    split at h <;> exact String.append_right_inj _ |>.mp h
  · rintro rfl
    rfl

namespace World

variable {δ : Type}

theorem lookup_filter_fst {β : Type} {path path' : String} (hne : path' ≠ path)
    (entries : List (String × β)) :
    (entries.filter (·.1 != path)).lookup path' = entries.lookup path' := by
  induction entries with
  | nil => rfl
  | cons entry entries ih =>
    by_cases hsame : entry.1 = path
    · rw [List.filter_cons_of_neg (by simpa using hsame), List.lookup_cons, ih]
      rw [beq_false_of_ne (hsame ▸ hne)]
    · rw [List.filter_cons_of_pos (by simpa using hsame), List.lookup_cons, List.lookup_cons, ih]

/-- A file that was written holds what was written last; the others are left alone. -/
theorem file?_writeFile (w : World δ) (path path' : String) (content : FileContent) :
    (w.writeFile path content).file? path'
      = if path' = path then some content else w.file? path' := by
  unfold file? writeFile
  rw [List.lookup_cons]
  by_cases heq : path' = path
  · rw [if_pos heq, beq_iff_eq.mpr heq]
  · rw [if_neg heq, beq_false_of_ne heq]
    exact lookup_filter_fst heq w.files

/-- A file is saved under its name, or not at all. -/
theorem saveFile_cases (dir name : String) (content : FileContent) (w : World δ) :
    (∃ err, w.saveFile dir name content = (.error err, w.makeDirectory dir)) ∨
      w.saveFile dir name content = (.ok (joinPath dir name),
        (w.makeDirectory dir).writeFile (joinPath dir name) content) := by
  unfold saveFile
  dsimp only
  split
  · exact .inl ⟨_, rfl⟩
  · exact .inr rfl

/-- The files are left alone. -/
def SameFiles (w w' : World δ) : Prop := w'.files = w.files

end World

/-! ## One run -/

/-- The file of a report that a run made: it is named after the report and a time of the clock, and
lies in the directory for exports. -/
structure Artifact.IsOf {δ : Type} (e : Engine δ) (d : Definition) (a : Artifact) : Prop where
  filename : ∃ n, a.filename = exportFilename d.name a.format (e.host.clock n)
  path : a.path = e.exportDir.map (joinPath · a.filename)

namespace Engine

variable {δ : Type} {e : Engine δ} {d : Definition} {r : RunRequest} {k : Option Artifact}

/-- The files that runs saved: under each of their paths there is what one of the runs saved. The
note of a run is the file that it made. -/
def Filed (notes : Multiset (Option Artifact)) (w : World δ) : Prop :=
  ∀ a path, some a ∈ notes → a.path = some path →
    ∃ b, some b ∈ notes ∧ b.path = some path ∧ w.file? path = some b.content

/-- What a run has made in the end. Where something goes wrong after that, it is the store. -/
def Filing (e : Engine δ) (d : Definition) (r : RunRequest) (answer : Except Fault RunOutcome)
    (k : Option Artifact) : Prop :=
  match answer with
  | .ok outcome => k = outcome.artifact ∧ r.exportAs = k.map (·.format) ∧ ∀ a ∈ k, a.IsOf e d
  | .error fault => k = none ∨ fault.kind = .store

/-- What leaves the files alone needs no note. -/
theorem maintains_of_sameFiles {α : Type} {p : Process (World δ) α} (hp : p.Each World.SameFiles)
    (k : Option Artifact) : Maintains Filed (fun _ k' => k' = k) k p := by
  refine hp.maintains (fun {notes w w'} hsame hw => ?_) k
  intro a path ha hpath
  obtain ⟨b, hb, hbpath, hfile⟩ := hw a path ha hpath
  refine ⟨b, hb, hbpath, ?_⟩
  rw [World.file?, hsame]
  exact hfile

/-- A run makes its file, which may take the place of another one. -/
theorem Filed.saves {others : Multiset (Option Artifact)} {w : World δ}
    (hw : Filed (none ::ₘ others) w) {a : Artifact} {path : String} (hpath : a.path = some path) :
    Filed (some a ::ₘ others) (w.writeFile path a.content) := by
  intro b path' hb hbpath
  by_cases heq : path' = path
  · subst heq
    refine ⟨a, Multiset.mem_cons_self _ _, hpath, ?_⟩
    rw [World.file?_writeFile, if_pos rfl]
  · have hother : some b ∈ none ::ₘ others := by
      rcases Multiset.mem_cons.mp hb with hsame | hmem
      · cases hsame
        rw [hpath] at hbpath
        exact absurd (Option.some.inj hbpath).symm heq
      · exact Multiset.mem_cons_of_mem hmem
    obtain ⟨c, hc, hcpath, hfile⟩ := hw b path' hother hbpath
    refine ⟨c, ?_, hcpath, ?_⟩
    · rcases Multiset.mem_cons.mp hc with hsame | hmem
      · cases hsame
      · exact Multiset.mem_cons_of_mem hmem
    · rw [World.file?_writeFile, if_neg heq]
      exact hfile

/-- A run that saves nothing may note what it made. -/
theorem Filed.makes {others : Multiset (Option Artifact)} {w : World δ}
    (hw : Filed (none ::ₘ others) w) {a : Artifact} (hpath : a.path = none) :
    Filed (some a ::ₘ others) w := by
  intro b path hb hbpath
  rcases Multiset.mem_cons.mp hb with hsame | hmem
  · cases hsame
    rw [hpath] at hbpath
    cases hbpath
  · obtain ⟨c, hc, hcpath, hfile⟩ := hw b path (Multiset.mem_cons_of_mem hmem) hbpath
    refine ⟨c, ?_, hcpath, hfile⟩
    rcases Multiset.mem_cons.mp hc with hsame | hmem
    · cases hsame
    · exact Multiset.mem_cons_of_mem hmem

/-- **The export of a run** is noted. -/
theorem maintains_filing (format : ExportFormat) (d : Definition) (columns : List OutputColumn)
    (rows : List (List Json)) :
    Maintains Filed (fun answer k => match answer with
      | .ok a => k = some a ∧ a.format = format ∧ a.IsOf e d
      | .error _ => k = none) none (e.exportResult format d.name columns rows) := by
  refine Process.maintains_atomically fun others w hw => ?_
  dsimp only
  have hthen : Filed (none ::ₘ others) (w.now e.host).2 := hw
  cases hrows : exportRows format d.name (w.now e.host).1 (columns.map (·.label)) rows with
  | error err => exact ⟨none, hthen, rfl⟩
  | ok a =>
    obtain ⟨content, -, rfl⟩ : ∃ content,
        exportContent format (columns.map (·.label)) rows = .ok content ∧
        a = ⟨exportFilename d.name format (w.now e.host).1, format, content, none⟩ := by
      unfold exportRows at hrows
      cases hcontent : exportContent format (columns.map (·.label)) rows with
      | error err =>
        rw [hcontent] at hrows
        cases hrows
      | ok content =>
        rw [hcontent] at hrows
        cases hrows
        exact ⟨content, rfl, rfl⟩
    cases hdir : e.exportDir with
    | none =>
      refine ⟨_, hthen.makes rfl, rfl, rfl, ⟨w.readings, rfl⟩, ?_⟩
      rw [hdir]
      rfl
    | some dir =>
      dsimp only
      rcases World.saveFile_cases dir (exportFilename d.name format (w.now e.host).1) content
        (w.now e.host).2 with ⟨err, hsave⟩ | hsave
      · rw [hsave]
        exact ⟨none, hthen, rfl⟩
      · rw [hsave]
        have hmade : Filed (none ::ₘ others) ((w.now e.host).2.makeDirectory dir) := hw
        refine ⟨_, hmade.saves rfl, rfl, rfl, ⟨w.readings, rfl⟩, ?_⟩
        rw [hdir]
        rfl

theorem sameFiles_onStoreNow {α : Type} (host : Host δ) (f : Instant → Store → α × Store) :
    (World.onStoreNow host f).Each World.SameFiles :=
  Process.each_atomically.mpr fun _ => rfl

/-- A run that goes on after it was perhaps counted. -/
theorem maintains_files_count {c : Bool} {β : Type} {f : Unit → World.Op δ Fault β}
    {post : Except Fault β → Option Artifact → Prop} (hf : Maintains Filed post k (f ()).run) :
    Maintains Filed post k
      (if c = true then World.always (e.recordAttempt d) >>= f else f ()).run := by
  cases c with
  | false => exact hf
  | true =>
    have hcount : (e.recordAttempt d).Each World.SameFiles :=
      (sameFiles_onStoreNow e.host _).bind fun _ => trivial
    refine World.maintains_op_bind (fun answer k' => answer = .ok () ∧ k' = k)
      (World.maintains_always ((maintains_of_sameFiles hcount k).mono fun _ _ hk => ⟨rfl, hk⟩))
      (fun _ _ h => nomatch h.1) ?_
    rintro _ _ ⟨-, rfl⟩
    exact hf

/-- The last steps of a run, which leave the files alone. -/
theorem maintains_files_complete (outcome : RunOutcome) {id : String} {result : Instant → RunResult}
    (hfiling : e.Filing d r (.ok outcome) k) :
    Maintains Filed (e.Filing d r) k (do
      World.orFail .ofStore (World.onStoreNow e.host fun now s =>
        s.markCompleted id (result now) now)
      if !e.countFailed then e.recordAttempt d
      return outcome : World.Op δ Fault RunOutcome).run := by
  refine World.maintains_op_bind (fun answer k' => match answer with
    | .ok _ => k' = k
    | .error fault => fault.kind = .store) ?_ (fun _ _ hstore => .inr hstore) ?_
  · refine World.maintains_orFail ((maintains_of_sameFiles (sameFiles_onStoreNow _ _) k).mono ?_)
    intro answer k' hk
    cases answer with
    | ok _ => exact hk
    | error _ => rfl
  · rintro _ _ rfl
    exact maintains_files_count (Process.maintains_pure hfiling)

/-- The steps of a run, and what it made. -/
theorem maintains_files_perform (e : Engine δ) (d : Definition) (r : RunRequest) (x : Execution) :
    Maintains Filed (e.Filing d r) none (e.perform d r x).run := by
  have hfailed : ∀ (fault : Fault) k, k = none → e.Filing d r (.error fault) k :=
    fun _ _ hk => .inl hk
  unfold perform
  refine World.maintains_op_bind (fun _ k => k = none)
    (World.maintains_orFail (maintains_of_sameFiles (sameFiles_onStoreNow _ _) none))
    hfailed ?_
  rintro _ _ rfl
  refine World.maintains_op_bind (fun _ k => k = none)
    (World.maintains_orFail (Process.maintains_pure rfl)) hfailed ?_
  rintro compiled _ rfl
  refine maintains_files_count ?_
  refine World.maintains_op_bind (fun _ k => k = none) ?_ hfailed ?_
  · have hfetch : (e.fetch ((compiled.applyFilters e.catalog r.filters d.layout).withLimit
        e.limits.rowsAsked) r.cancelled).Each World.SameFiles :=
      Process.each_atomically.mpr fun _ => rfl
    exact World.maintains_orFail (maintains_of_sameFiles hfetch none)
  rintro found _ rfl
  cases hformat : r.exportAs with
  | none =>
    refine World.maintains_op_bind (fun answer k => answer = .ok none ∧ k = none)
      (Process.maintains_pure ⟨rfl, rfl⟩) (fun _ _ h => nomatch h.1) ?_
    rintro _ _ ⟨hartifact, rfl⟩
    cases hartifact
    exact maintains_files_complete ⟨x.id, _, _, _, none⟩ ⟨rfl, hformat, fun _ ha => nomatch ha⟩
  | some format =>
    refine World.maintains_op_bind (fun answer k => match answer with
      | .ok artifact => artifact = k ∧ k.map (·.format) = some format ∧ ∀ a ∈ k, a.IsOf e d
      | .error _ => k = none) ?_ hfailed ?_
    · refine World.maintains_op_map some (World.maintains_orFail
        ((maintains_filing format d _ _).mono ?_))
      intro answer k hk
      cases answer with
      | error err => exact hk
      | ok a =>
        obtain ⟨rfl, hof⟩ := hk
        refine ⟨rfl, congrArg some hof.1, fun b hb => ?_⟩
        rw [← Option.some.inj hb]
        exact hof.2
    · rintro artifact k ⟨rfl, hmade, hof⟩
      exact maintains_files_complete ⟨x.id, _, _, _, artifact⟩
        ⟨rfl, hformat.trans hmade.symm, hof⟩

/-- **What a run does to the files**: it makes one of its own and leaves the others alone, unless
they have its path. -/
theorem maintains_files (e : Engine δ) (d : Definition) (r : RunRequest) :
    Maintains Filed (fun answer k => e.Filing d r (answer.mapError (·.fault)) k) none
      (e.execute d r) := by
  unfold execute
  have hopen : (e.openExecution d r).Each World.SameFiles :=
    Process.each_atomically.mpr fun _ => rfl
  refine (maintains_of_sameFiles hopen none).bind ?_
  rintro x _ rfl
  refine (maintains_files_perform e d r x).bind fun answer k hk => ?_
  cases answer with
  | ok outcome => exact hk
  | error fault =>
    refine (maintains_of_sameFiles (sameFiles_onStoreNow _ _) k).bind ?_
    rintro _ _ rfl
    exact hk

end Engine

/-! ## Any number of runs -/

/-- The `i`-th run of a pool answered with an outcome and a file. -/
def Exports (answers : List (Except RunFailure RunOutcome)) (i : Nat) (outcome : RunOutcome)
    (a : Artifact) : Prop :=
  answers[i]? = some (.ok outcome) ∧ outcome.artifact = some a

theorem Exports.unique {answers : List (Except RunFailure RunOutcome)} {i : Nat}
    {outcome outcome' : RunOutcome} {a a' : Artifact} (h : Exports answers i outcome a)
    (h' : Exports answers i outcome' a') : a = a' := by
  obtain ⟨hanswer, ha⟩ := h
  obtain ⟨hanswer', ha'⟩ := h'
  rw [hanswer] at hanswer'
  cases hanswer'
  rw [ha] at ha'
  exact Option.some.inj ha'

namespace Engine

variable {δ : Type} {e : Engine δ} {runs : List (Definition × RunRequest)}
  {answers : List (Except RunFailure RunOutcome)} {w w' : World δ}

section Pool

variable (h : Interleaved (runs.map fun x => e.execute x.1 x.2) w (answers.map .done) w')

include h

/-- The records of the runs of a pool: each says what the run answers. -/
theorem exists_records (hids : Function.Injective e.host.executionId)
    (hfresh : ∀ row ∈ w.store.executions, ¬ e.host.coming w.issued row.id) :
    ∃ ns : List ((Definition × RunRequest) × Attempt), ns.map Prod.fst = runs ∧
      List.Forall₂ (fun n answer => e.Settled n.1.1 n.1.2 answer n.2) ns answers ∧
      Keeping e.host.coming w.store (ns.map Prod.snd : List Attempt) w' := by
  let start : Definition × RunRequest → Attempt := fun x => ⟨(x.1.tenant, x.1.id), none, false⟩
  have hstart : Keeping e.host.coming w.store (runs.map start : List Attempt) w := by
    refine Store.books_start (fun a ha => ?_) hfresh
    obtain ⟨x, -, rfl⟩ := List.mem_map.mp (Multiset.mem_coe.mp ha)
    exact ⟨rfl, rfl⟩
  exact h.exists_notes (fun x _ => maintains_execute hids x.1 x.2) hstart

/-- The files of the runs of a pool. -/
theorem exists_files : ∃ ns : List ((Definition × RunRequest) × Option Artifact),
    ns.map Prod.fst = runs ∧
    List.Forall₂ (fun n answer => e.Filing n.1.1 n.1.2 (answer.mapError (·.fault)) n.2)
      ns answers ∧
    Filed (ns.map Prod.snd : List (Option Artifact)) w' := by
  let start : Definition × RunRequest → Option Artifact := fun _ => none
  have hstart : Filed (runs.map start : List (Option Artifact)) w := by
    intro a path ha
    obtain ⟨x, -, hx⟩ := List.mem_map.mp (Multiset.mem_coe.mp ha)
    cases hx
  exact h.exists_notes (fun x _ => maintains_files e x.1 x.2) hstart

/-- A new record is the one of a run, and says what the run answers. -/
theorem exists_run_of_record (hids : Function.Injective e.host.executionId)
    (hfresh : ∀ row ∈ w.store.executions, ¬ e.host.coming w.issued row.id)
    {x : ExecutionRow} (hx : x ∈ w'.store.executions) (hnew : x ∉ w.store.executions) :
    ∃ (i : Nat) (d : Definition) (r : RunRequest) (answer : _) (counted : Bool),
      runs[i]? = some (d, r) ∧ answers[i]? = some answer ∧
      e.Settled d r answer ⟨(d.tenant, d.id), some x, counted⟩ := by
  obtain ⟨ns, rfl, hsettled, hbooks⟩ := exists_records h hids hfresh
  obtain ⟨news, hnews⟩ := hbooks.records
  have hentered : x ∈ news := by
    rw [hnews.executions] at hx
    exact (List.mem_append.mp hx).resolve_left hnew
  rw [← Multiset.mem_coe, hnews.noted] at hentered
  obtain ⟨a, ha, hrecord⟩ := (Multiset.mem_filterMap _ _).mp hentered
  obtain ⟨n, hn, rfl⟩ := List.mem_map.mp (Multiset.mem_coe.mp ha)
  obtain ⟨i, answer, hrun, hanswer, y, hnote, hof, htells⟩ :=
    Process.exists_index_of_note hsettled hn
  rw [hnote] at hrecord
  cases hrecord
  exact ⟨i, n.1.1, n.1.2, answer, _, hrun, hanswer, x, rfl, hof, htells⟩

/-- A file that was noted is the one of a run that went well. -/
theorem exports_of_note {ns : List ((Definition × RunRequest) × Option Artifact)}
    (hids : Function.Injective e.host.executionId)
    (hfresh : ∀ row ∈ w.store.executions, ¬ e.host.coming w.issued row.id)
    (hlabels : ns.map Prod.fst = runs)
    (hfiling : List.Forall₂
      (fun n answer => e.Filing n.1.1 n.1.2 (answer.mapError (·.fault)) n.2) ns answers)
    {b : Artifact} (hb : some b ∈ (ns.map Prod.snd : List (Option Artifact))) :
    ∃ (j : Nat) (d' : Definition) (r' : RunRequest) (outcome' : RunOutcome),
      runs[j]? = some (d', r') ∧ Exports answers j outcome' b ∧ b.IsOf e d' := by
  obtain ⟨n, hn, hnote⟩ := List.mem_map.mp hb
  obtain ⟨j, answer, hrun, hanswer, hmade⟩ := Process.exists_index_of_note hfiling hn
  rw [hlabels] at hrun
  rw [hnote] at hmade
  cases answer with
  | ok outcome =>
    obtain ⟨hartifact, -, hof⟩ := hmade
    exact ⟨j, n.1.1, n.1.2, outcome, hrun, ⟨hanswer, hartifact.symm⟩, hof b rfl⟩
  | error failure =>
    -- a run that made a file went well: the store takes its record
    obtain ⟨ms, -, hsettled, -⟩ := exists_records h hids hfresh
    obtain ⟨m, -, -, -, -, -, -, -, hstore⟩ := Process.exists_note_of_index hsettled hanswer
    rcases hmade with hnone | hfault
    · cases hnone
    · exact absurd hfault hstore

/-- **The files after any number of runs**, of any reports and tenants and in any order of their
steps. The file of a completed record holds what its run exported, unless another run came to the
same name: then it holds what one of those runs exported. -/
theorem export_kept_or_overwritten {dir : String} (hdir : e.exportDir = some dir)
    (hids : Function.Injective e.host.executionId)
    (hfresh : ∀ row ∈ w.store.executions, ¬ e.host.coming w.issued row.id)
    {x : ExecutionRow} (hx : x ∈ w'.store.executions) (hnew : x ∉ w.store.executions)
    (hcompleted : x.status = .completed) {path : String} (hpath : x.exportPath = some path) :
    ∃ (i : Nat) (d : Definition) (r : RunRequest) (outcome : RunOutcome) (a : Artifact),
      runs[i]? = some (d, r) ∧ Exports answers i outcome a ∧ x.id = outcome.execution ∧
      x.IsOf d r ∧ a.IsOf e d ∧ path = joinPath dir a.filename ∧
      (w'.file? path = some a.content ∨ ∃ j outcome' b, j ≠ i ∧ Exports answers j outcome' b ∧
        b.filename = a.filename ∧ w'.file? path = some b.content) := by
  obtain ⟨i, d, r, answer, counted, hrun, hanswer, y, hy, hof, htells, hends⟩ :=
    exists_run_of_record h hids hfresh hx hnew
  cases hy
  cases answer with
  | error failure =>
    rw [htells.1] at hcompleted
    cases hcompleted
  | ok outcome =>
    have hsaved : outcome.artifact.bind (·.path) = some path := hends.2.symm.trans hpath
    obtain ⟨a, ha, hapath⟩ := Option.bind_eq_some_iff.mp hsaved
    obtain ⟨ns, hlabels, hfiling, hfiled⟩ := exists_files h
    -- the note of the run is its file
    obtain ⟨⟨⟨d', r'⟩, k⟩, hn, hrun', hnote, -, hmade⟩ :=
      Process.exists_note_of_index hfiling hanswer
    rw [hlabels, hrun] at hrun'
    cases hrun'
    obtain rfl : k = some a := hnote.trans ha
    have hof' : a.IsOf e d := hmade a rfl
    obtain rfl : path = joinPath dir a.filename := by
      have hplace := hof'.path
      rw [hapath, hdir] at hplace
      exact Option.some.inj hplace
    refine ⟨i, d, r, outcome, a, hrun, ⟨hanswer, ha⟩, htells.2.1, hof, hof', rfl, ?_⟩
    -- under the path there is what some run saved
    obtain ⟨b, hb, hbpath, hfile⟩ :=
      hfiled a _ (Multiset.mem_coe.mpr (List.mem_map_of_mem hn)) hapath
    obtain ⟨j, d'', r'', outcome', -, hexports, hof''⟩ :=
      exports_of_note h hids hfresh hlabels hfiling (Multiset.mem_coe.mp hb)
    by_cases hj : j = i
    · subst hj
      rw [hexports.unique ⟨hanswer, ha⟩] at hfile
      exact .inl hfile
    · refine .inr ⟨j, outcome', b, hj, hexports, ?_, hfile⟩
      have hplace := hof''.path
      rw [hbpath, hdir] at hplace
      exact (joinPath_inj.mp (Option.some.inj hplace)).symm

end Pool

/-! ## Two tenants with reports of one name -/

/-- A host whose clock stands still. The second tenant has sold something, and the first one has
not. -/
def branchHost : Host Unit where
  dialect := .sqlite
  query request data :=
    let rows := if request.statement.params.contains (.int 2) then [[.string "ADA", .int 5]] else []
    (.ok rows, data)
  clock _ := newYear
  executionId n := toString n

/-- An engine that saves the files of both tenants in one directory. -/
def branchEngine : Engine Unit where
  host := branchHost
  catalog := shop
  exportDir := some "exports"

/-- Both tenants have a report of their sales. -/
def branchRuns : List (Definition × RunRequest) :=
  [(salesReport 1 none, { tenant := 1, user := 1, exportAs := some .csv }),
    ({ salesReport 2 none with tenant := 2 }, { tenant := 2, user := 1, exportAs := some .csv })]

/-- The reports of both tenants, which have not run yet. -/
def branchOffice : World Unit where
  store := {
    definitions := branchRuns.map fun x => .ofDefinition x.1
    lastDefinition := 2 }
  data := ()

/-- The report of the first tenant runs, and then the one of the second tenant. -/
def branchFirst : Except RunFailure RunOutcome × World Unit :=
  (branchEngine.execute (salesReport 1 none) { tenant := 1, user := 1, exportAs := some .csv }).run
    branchOffice

def branchSecond : Except RunFailure RunOutcome × World Unit :=
  (branchEngine.execute { salesReport 2 none with tenant := 2 }
    { tenant := 2, user := 1, exportAs := some .csv }).run branchFirst.2

def branchAnswers : List (Except RunFailure RunOutcome) := [branchFirst.1, branchSecond.1]

theorem interleaved_branches :
    Interleaved (branchRuns.map fun x => branchEngine.execute x.1 x.2) branchOffice
      (branchAnswers.map .done) branchSecond.2 :=
  (Process.interleaved_run [] _ _ _).trans (Process.interleaved_run [.done branchFirst.1] [] _ _)

/-- The path that both runs come to. -/
def branchPath : String := "exports/sales_20240101_000000.csv"

theorem record_branches : ∃ x ∈ branchSecond.2.store.executions,
    x.id = "0" ∧ x.status = .completed ∧ x.exportPath = some branchPath := by
  decide +kernel

/-- The answer of the first run: a file with a header and no more. -/
theorem answer_branches : ∃ outcome a, Exports branchAnswers 0 outcome a ∧
    outcome.execution = "0" ∧ a.content = .csv "Customer,Revenue\n" := by
  have hfirst : branchFirst.1.toOption.map
      (fun outcome => (outcome.execution, outcome.artifact.map (·.content)))
        = some ("0", some (.csv "Customer,Revenue\n")) := by
    decide +kernel
  cases hanswer : branchFirst.1 with
  | error failure =>
    rw [hanswer] at hfirst
    cases hfirst
  | ok outcome =>
    rw [hanswer, Except.toOption, Option.map_some, Option.some.injEq, Prod.mk.injEq] at hfirst
    obtain ⟨a, ha, hcontent⟩ := Option.map_eq_some_iff.mp hfirst.2
    refine ⟨outcome, a, ⟨?_, ha⟩, hfirst.1, hcontent⟩
    exact congrArg some hanswer

theorem file_branches :
    branchSecond.2.file? branchPath = some (.csv "Customer,Revenue\nADA,5.00\n") := by
  decide +kernel

/-- One of the runs exported what lies under the path. -/
theorem export_overwritten_branches :
    ∃ x ∈ branchSecond.2.store.executions, x ∉ branchOffice.store.executions ∧
      x.status = .completed ∧ x.exportPath = some branchPath ∧
      ∃ (i : Nat) (outcome : RunOutcome) (a : Artifact), Exports branchAnswers i outcome a ∧
        x.id = outcome.execution ∧ branchPath = joinPath "exports" a.filename ∧
        (branchSecond.2.file? branchPath = some a.content ∨ ∃ j outcome' b, j ≠ i ∧
          Exports branchAnswers j outcome' b ∧ b.filename = a.filename ∧
          branchSecond.2.file? branchPath = some b.content) := by
  obtain ⟨x, hx, -, hcompleted, hpath⟩ := record_branches
  have hnew : x ∉ branchOffice.store.executions := List.not_mem_nil
  obtain ⟨i, d, r, outcome, a, -, hexports, hid, -, -, hplace, hfile⟩ :=
    export_kept_or_overwritten interleaved_branches rfl Scheduler.executionId_injective
      (fun row hrow => absurd hrow List.not_mem_nil) hx hnew hcompleted hpath
  exact ⟨x, hx, hnew, hcompleted, hpath, i, outcome, a, hexports, hid, hplace, hfile⟩

/-- **The file of a completed run can be written over**: the record of the first tenant's run names
a file that holds what the second tenant's run exported. -/
theorem exists_overwritten_export :
    ∃ (runs : List (Definition × RunRequest)) (answers : List (Except RunFailure RunOutcome))
      (w w' : World Unit) (i : Nat) (outcome : RunOutcome) (a : Artifact) (path : String),
      Interleaved (runs.map fun x => branchEngine.execute x.1 x.2) w (answers.map .done) w' ∧
      Exports answers i outcome a ∧
      (∃ x ∈ w'.store.executions, x.id = outcome.execution ∧ x.status = .completed ∧
        x.exportPath = some path) ∧
      w'.file? path ≠ some a.content := by
  obtain ⟨outcome, a, hexports, hid, hcontent⟩ := answer_branches
  refine ⟨branchRuns, branchAnswers, branchOffice, branchSecond.2, 0, outcome, a, branchPath,
    interleaved_branches, hexports, ?_, ?_⟩
  · obtain ⟨x, hx, hxid, hended⟩ := record_branches
    exact ⟨x, hx, hxid.trans hid.symm, hended⟩
  · rw [file_branches, hcontent]
    decide

end Engine

end TenantReports
