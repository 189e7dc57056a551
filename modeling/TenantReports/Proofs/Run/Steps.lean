import TenantReports.Proofs.Process.Operations
import TenantReports.Proofs.Store.Agreement
import TenantReports.Scheduling.Delivery

/-!
# What runs do to the store

A run adds a record, moves it on and counts for its report. Nothing else in the store changes, so
whatever goes on beside a run finds all schedules, and of the reports all but their counts, as
they were.

## Main definitions

* `DefinitionRow.uncounted`: a row without what is known of its runs
* `Store.Ran`: what runs may do to the store
* `Store.RunStep`: what one step of a run can do to it
* `Channel.Confined`: deliveries have no access to the store

## Main results

* `Engine.each_execute_runStep`, `Engine.each_execute`: every step of a run does no more than that
* `Engine.each_preview`: a preview does not touch the store
* `Channel.log_confined`, `Channel.directory_confined`: the channels there are
-/

namespace TenantReports

open Time (Instant)
open World (Storewise)

/-- A row without what is known of its runs. -/
def DefinitionRow.uncounted (r : DefinitionRow) : DefinitionRow :=
  { r with executionCount := 0, lastExecutedAt := none }

/-- What runs may do to the store: nothing but the counts of reports and the records of runs
changes. -/
abbrev Store.Ran (s t : Store) : Prop := Store.Agree DefinitionRow.uncounted id s t

/-- All that a step of a run can do to the store: it opens a record, moves one on, or counts for a
report at a time of the clock. -/
inductive Store.RunStep {δ : Type} (host : Host δ) (s : Store) : Store → Prop
  | stays : RunStep host s s
  | opens (row : ExecutionRow) : RunStep host s { s with executions := s.executions ++ [row] }
  | moves (execution : String) (status : Status) (f : ExecutionRow → ExecutionRow) :
    RunStep host s (s.moveExecution execution status f).2
  | counts (tenant id : Int) (reading : Nat) :
    RunStep host s (s.recordAttempt tenant id (host.clock reading)).2

/-- A step of a run changes nothing but the counts of reports and the records of runs. -/
theorem Store.RunStep.ran {δ : Type} {host : Host δ} {s t : Store} (h : RunStep host s t) :
    s.Ran t := by
  cases h with
  | stays => exact .refl s
  | opens row => exact ⟨rfl, rfl, rfl, rfl⟩
  | moves execution status f =>
    obtain ⟨executions, heq⟩ := Store.moveExecution_snd s execution status f
    rw [heq]
    exact ⟨rfl, rfl, rfl, rfl⟩
  | counts tenant id reading =>
    rw [Store.recordAttempt_snd]
    exact Store.agree_changeDefinition s tenant id fun _ => rfl

theorem World.saveFile_store {δ : Type} (dir name : String) (content : FileContent) (w : World δ) :
    (w.saveFile dir name content).2.store = w.store := by
  unfold saveFile
  dsimp only
  split <;> rfl

/-! ## Runs -/

namespace Engine

variable {δ : Type} (e : Engine δ)

theorem each_recordAttempt (d : Definition) :
    (e.recordAttempt d).Each (Storewise (Store.RunStep e.host)) :=
  Process.Each.bind (World.each_onStoreAt fun n _ => .counts d.tenant d.id n) fun _ => trivial

theorem each_fetch (c : CompiledQuery) (cancelled : Bool) :
    (e.fetch c cancelled).Each (Storewise (Store.RunStep e.host)) :=
  World.each_elsewhere (fun _ => .stays) fun _ => rfl

theorem each_exportResult (format : ExportFormat) (name : String) (columns : List OutputColumn)
    (rows : List (List Json)) :
    (e.exportResult format name columns rows).Each (Storewise (Store.RunStep e.host)) := by
  refine World.each_elsewhere (fun _ => .stays) fun w => ?_
  dsimp only
  cases exportRows format name (w.now e.host).1 (columns.map (·.label)) rows with
  | error err => rfl
  | ok a =>
    cases e.exportDir with
    | none => rfl
    | some dir =>
      have hstore := World.saveFile_store dir a.filename a.content (w.now e.host).2
      rcases hsave : (w.now e.host).2.saveFile dir a.filename a.content with ⟨_ | path, w'⟩
      all_goals
        rw [hsave] at hstore
        simp only [hsave]
        exact hstore

theorem each_openExecution (d : Definition) (r : RunRequest) :
    (e.openExecution d r).Each (Storewise (Store.RunStep e.host)) :=
  Process.each_atomically.mpr fun _ => .opens _

theorem each_perform (d : Definition) (r : RunRequest) (x : Execution) :
    (e.perform d r x).run.Each (Storewise (Store.RunStep e.host)) := by
  have hmove : ∀ (status : Status) (f : Instant → ExecutionRow → ExecutionRow),
      (World.onStoreNow e.host fun now s => s.moveExecution x.id status (f now)).Each
        (Storewise (Store.RunStep e.host)) :=
    fun status f => World.each_onStoreNow fun now s => .moves x.id status (f now)
  unfold perform
  refine World.each_op_bind (World.each_orFail (hmove _ _)) fun _ => ?_
  refine World.each_op_bind (World.each_orFail trivial) fun compiled => ?_
  refine World.each_when (World.each_always (e.each_recordAttempt d)) fun _ => ?_
  refine World.each_op_bind (World.each_orFail (e.each_fetch _ _)) fun found => ?_
  cases r.exportAs with
  | none =>
    refine World.each_op_bind (World.each_op_pure none) fun artifact => ?_
    refine World.each_op_bind (World.each_orFail (hmove _ _)) fun _ => ?_
    exact World.each_when (World.each_always (e.each_recordAttempt d)) fun _ => trivial
  | some format =>
    refine World.each_op_bind ?_ fun artifact => ?_
    · exact World.each_op_map some (World.each_orFail (e.each_exportResult format d.name _ _))
    refine World.each_op_bind (World.each_orFail (hmove _ _)) fun _ => ?_
    exact World.each_when (World.each_always (e.each_recordAttempt d)) fun _ => trivial

/-- **All steps of a run are such steps.** -/
theorem each_execute_runStep (d : Definition) (r : RunRequest) :
    (e.execute d r).Each (Storewise (Store.RunStep e.host)) := by
  unfold execute
  refine (e.each_openExecution d r).bind fun x => ?_
  refine (e.each_perform d r x).bind fun result => ?_
  cases result with
  | ok outcome => trivial
  | error fault =>
    exact Process.Each.bind (World.each_onStoreNow fun now s => .moves x.id .failed _)
      fun _ => trivial

/-- **A run changes nothing in the store but counts and records**, step by step. -/
theorem each_execute (d : Definition) (r : RunRequest) :
    (e.execute d r).Each (Storewise Store.Ran) :=
  (e.each_execute_runStep d r).mono fun _ _ h => Store.RunStep.ran h

theorem each_preview (l : Layout) (tenant : Int) (limit : Nat) :
    (e.preview l tenant limit).Each (Storewise Store.Ran) := by
  unfold preview
  cases l.compile e.catalog tenant with
  | error err => trivial
  | ok compiled =>
    refine ((e.each_fetch _ _).mono fun _ _ h => Store.RunStep.ran h).bind fun answer => ?_
    cases answer <;> trivial

end Engine

/-! ## Deliveries -/

namespace Channel

variable {δ : Type}

/-- Deliveries have no access to the store. -/
def Confined (c : Channel δ) : Prop := ∀ d w, (c d w).2.store = w.store

theorem log_confined : (log : Channel δ).Confined := fun _ _ => rfl

theorem directory_confined (root : String) : (directory root : Channel δ).Confined := by
  intro d w
  unfold directory
  cases d.artifact with
  | none => rfl
  | some a =>
    have hstore := World.saveFile_store (scheduleDir root d.schedule.id) a.filename a.content w
    rcases hsave : w.saveFile (scheduleDir root d.schedule.id) a.filename a.content
      with ⟨_ | path, w'⟩
    all_goals
      rw [hsave] at hstore
      simpa only [hsave] using hstore

end Channel

end TenantReports
