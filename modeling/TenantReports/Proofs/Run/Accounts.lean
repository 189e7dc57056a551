import Mathlib.Data.Multiset.Count
import Mathlib.Data.Multiset.Filter
import TenantReports.Proofs.Run.Steps
import TenantReports.Proofs.Scheduling.Coherence
import TenantReports.Proofs.Store.Records

/-!
# The books of runs

A run opens one record, moves it on and ends it, and adds one to the count of its report where it
counts. Other runs may do so at the same time, on the same report as well. The note of a run is
what it has put into the books so far: its record, and whether it was counted. The books are the
store at the start with all notes added: no record is lost and no count, whatever the order of the
steps.

## Main definitions

* `Attempt`: the note of a run
* `Store.Books`: the store at the start, with the notes of all runs added
* `Engine.counts`: a run counts
* `ExecutionRow.Tells`: the record of a run says what its answer says
* `Engine.OutcomeOf`, `Engine.FaultOf`: what else follows from the answer of a run

## Main results

* `Store.Books.opens`, `Store.Books.moves`, `Store.Books.adds`: what a run puts into the books
* `Engine.maintains_perform`, `Engine.maintains_execute`: a run keeps the books, whatever goes on
  beside it
* `Engine.execute_accounts`: a run alone
-/

namespace TenantReports

open Process (Each Maintains)
open Time (Instant)

/-- The note of a run: its report, by tenant and id, its record, and whether it was counted. -/
structure Attempt where
  report : Int × Int
  record : Option ExecutionRow := none
  counted : Bool := false

/-- The runs of a report that were counted. -/
def countFor (notes : Multiset Attempt) (report : Int × Int) : Nat :=
  notes.countP fun a => a.report = report ∧ a.counted = true

@[simp] theorem countFor_zero (report : Int × Int) : countFor 0 report = 0 :=
  Multiset.countP_zero _

theorem countFor_cons (a : Attempt) (notes : Multiset Attempt) (report : Int × Int) :
    countFor (a ::ₘ notes) report
      = countFor notes report + if a.report = report ∧ a.counted = true then 1 else 0 :=
  Multiset.countP_cons _ a notes

theorem countFor_record (report : Int × Int) (record record' : Option ExecutionRow)
    (counted : Bool) (notes : Multiset Attempt) :
    countFor (⟨report, record, counted⟩ ::ₘ notes)
      = countFor (⟨report, record', counted⟩ ::ₘ notes) := by
  funext k
  rw [countFor_cons, countFor_cons]

theorem records_cons_none (report : Int × Int) (counted : Bool) (notes : Multiset Attempt) :
    Multiset.filterMap Attempt.record (⟨report, none, counted⟩ ::ₘ notes)
      = notes.filterMap Attempt.record := Multiset.filterMap_cons_none _ _ rfl

theorem records_cons_some (report : Int × Int) (x : ExecutionRow) (counted : Bool)
    (notes : Multiset Attempt) :
    Multiset.filterMap Attempt.record (⟨report, some x, counted⟩ ::ₘ notes)
      = x ::ₘ notes.filterMap Attempt.record := Multiset.filterMap_cons_some _ _ _ rfl

/-- The row of a report after a number of runs that counted. -/
structure DefinitionRow.Grown (n : Nat) (r r' : DefinitionRow) : Prop where
  tenant : r'.tenant = r.tenant
  id : r'.id = r.id
  executionCount : r'.executionCount = r.executionCount + n
  lastExecutedAt : n = 0 → r'.lastExecutedAt = r.lastExecutedAt

/-- What the books know of the row of a report. -/
def DefinitionRow.counts (r : DefinitionRow) : Int × Int × Int × Option String :=
  (r.tenant, r.id, r.executionCount, r.lastExecutedAt)

/-- The records of runs that began after a start are all those noted, each with an id of its
own. -/
structure Store.Enters (s₀ s : Store) (records : Multiset ExecutionRow)
    (news : List ExecutionRow) : Prop where
  executions : s.executions = s₀.executions ++ news
  noted : (news : Multiset ExecutionRow) = records
  distinct : (news.map (·.id)).Nodup
  apart : ∀ x ∈ news, ∀ r ∈ s₀.executions, r.id ≠ x.id

/-- The books of the runs that began after a start. The ids that satisfy `coming n` may be given
once `n` ids were given. -/
structure Store.Books (coming : Nat → String → Prop) (s₀ : Store) (notes : Multiset Attempt)
    (s : Store) (issued : Nat) : Prop where
  records : ∃ news, s₀.Enters s (notes.filterMap Attempt.record) news
  fresh : ∀ r ∈ s.executions, ¬ coming issued r.id
  counts : List.Forall₂ (fun r r' => r.Grown (countFor notes (r.tenant, r.id)) r')
    s₀.definitions s.definitions

namespace Store

variable {coming : Nat → String → Prop} {s₀ s : Store} {notes others : Multiset Attempt}
  {issued : Nat} {report : Int × Int} {x : ExecutionRow} {counted : Bool}

/-! ## Entries -/

/-- The books are opened. -/
theorem books_start (hnotes : ∀ a ∈ notes, a.record = none ∧ a.counted = false)
    (hfresh : ∀ r ∈ s.executions, ¬ coming issued r.id) : Books coming s notes s issued where
  records := by
    refine ⟨[], by simp, ?_, List.nodup_nil, by simp⟩
    rw [Multiset.coe_nil, eq_comm, Multiset.eq_zero_iff_forall_notMem]
    intro x hx
    obtain ⟨a, ha, hrecord⟩ := (Multiset.mem_filterMap _ _).mp hx
    rw [(hnotes a ha).1] at hrecord
    cases hrecord
  fresh := hfresh
  counts := by
    rw [List.forall₂_same]
    intro r _
    have hzero : countFor notes (r.tenant, r.id) = 0 := by
      rw [countFor, Multiset.countP_eq_zero]
      intro a ha hcounted
      rw [(hnotes a ha).2] at hcounted
      cases hcounted.2
    rw [hzero]
    exact ⟨rfl, rfl, by simp, fun _ => rfl⟩

/-- A record is opened under a new id. -/
theorem Books.opens (h : Books coming s₀ (⟨report, none, counted⟩ ::ₘ others) s issued)
    {id : String} (hid : ∀ r ∈ s.executions, r.id ≠ id)
    (hlater : ∀ id', coming (issued + 1) id' → coming issued id' ∧ id' ≠ id)
    (new : NewExecution) (now : Instant) :
    Books coming s₀ (⟨report, some (.opened id new now), counted⟩ ::ₘ others)
      (s.createExecution id new now).2 (issued + 1) where
  records := by
    obtain ⟨news, hnews⟩ := h.records
    refine ⟨news ++ [.opened id new now], ?_, ?_, ?_, ?_⟩
    · change s.executions ++ _ = _
      rw [hnews.executions, List.append_assoc]
      rfl
    · have hnoted := hnews.noted
      rw [records_cons_none] at hnoted
      rw [records_cons_some, ← hnoted, Multiset.cons_coe, Multiset.coe_eq_coe]
      exact List.perm_append_singleton _ _
    · rw [List.map_append, List.nodup_append]
      refine ⟨hnews.distinct, List.nodup_singleton _, fun a ha b hb heq => ?_⟩
      obtain ⟨r, hr, rfl⟩ := List.mem_map.mp ha
      rw [List.map_singleton, List.mem_singleton] at hb
      refine hid r ?_ (heq.trans hb)
      rw [hnews.executions]
      exact List.mem_append_right _ hr
    · intro y hy r hr
      rcases List.mem_append.mp hy with hy | hy
      · exact hnews.apart y hy r hr
      · rw [List.mem_singleton.mp hy]
        refine hid r ?_
        rw [hnews.executions]
        exact List.mem_append_left _ hr
  fresh := by
    intro r hr hcoming
    obtain ⟨hbefore, hne⟩ := hlater r.id hcoming
    rcases List.mem_append.mp hr with hr | hr
    · exact h.fresh r hr hbefore
    · rw [List.mem_singleton.mp hr] at hne
      exact hne rfl
  counts := by
    rw [countFor_record _ _ none]
    exact h.counts

/-- The record of a run is found by its id. -/
theorem Enters.find? {records : Multiset ExecutionRow} {news : List ExecutionRow}
    (h : s₀.Enters s records news) (hx : x ∈ news) :
    s.executions.find? (·.id == x.id) = some x := by
  have hnone : s₀.executions.find? (·.id == x.id) = none := by
    rw [List.find?_eq_none]
    intro r hr hsame
    exact h.apart x hx r hr (beq_iff_eq.mp hsame)
  rw [h.executions, List.find?_append, hnone, Option.none_or]
  cases hfind : news.find? (·.id == x.id) with
  | none => exact absurd BEq.rfl (List.find?_eq_none.mp hfind x hx)
  | some y =>
    have hid : y.id = x.id := by simpa using List.find?_some hfind
    rw [List.inj_on_of_nodup_map h.distinct (List.mem_of_find?_eq_some hfind) hx hid]

/-- **A record is moved on**: it is the one of the run, and no other one changes. -/
theorem Books.moves (h : Books coming s₀ (⟨report, some x, counted⟩ ::ₘ others) s issued)
    {status : Status} (hmay : x.status.CanBecome status) {f : ExecutionRow → ExecutionRow}
    (hf : (f x).id = x.id) :
    (s.moveExecution x.id status f).1 = .ok () ∧
      Books coming s₀ (⟨report, some { f x with status }, counted⟩ ::ₘ others)
        (s.moveExecution x.id status f).2 issued := by
  obtain ⟨news, hnews⟩ := h.records
  have hnoted := hnews.noted
  rw [records_cons_some] at hnoted
  have hx : x ∈ news := by
    rw [← Multiset.mem_coe, hnoted]
    exact Multiset.mem_cons_self x _
  -- all other rows have other ids
  let g : ExecutionRow → ExecutionRow := fun r => if r.id == x.id then { f r with status } else r
  have hold : s₀.executions.map g = s₀.executions := by
    conv_rhs => rw [← List.map_id s₀.executions]
    refine List.map_congr_left fun r hr => if_neg ?_
    simpa using hnews.apart x hx r hr
  have hrest : ∀ y ∈ others.filterMap Attempt.record, g y = y := by
    intro y hy
    refine if_neg fun hsame => ?_
    have hdistinct := hnews.distinct
    rw [← Multiset.coe_nodup, ← Multiset.map_coe, hnoted, Multiset.map_cons,
      Multiset.nodup_cons] at hdistinct
    rw [← beq_iff_eq.mp hsame] at hdistinct
    exact hdistinct.1 (Multiset.mem_map_of_mem _ hy)
  have hgx : g x = { f x with status } := if_pos BEq.rfl
  have hgid : ∀ y ∈ news, (g y).id = y.id := by
    intro y hy
    rw [← Multiset.mem_coe, hnoted, Multiset.mem_cons] at hy
    rcases hy with rfl | hy
    · rw [hgx]
      exact hf
    · rw [hrest y hy]
  have hexecutions : s.executions.map g = s₀.executions ++ news.map g := by
    rw [hnews.executions, List.map_append, hold]
  rw [moveExecution, hnews.find? hx]
  dsimp only
  rw [if_pos hmay]
  refine ⟨rfl, ⟨⟨news.map g, hexecutions, ?_, ?_, ?_⟩, ?_, ?_⟩⟩
  · rw [← Multiset.map_coe, hnoted, Multiset.map_cons, hgx, records_cons_some,
      Multiset.map_congr rfl hrest, Multiset.map_id']
  · have hids : (news.map g).map (·.id) = news.map (·.id) := by
      rw [List.map_map]
      exact List.map_congr_left hgid
    rw [hids]
    exact hnews.distinct
  · intro y' hy' r hr
    obtain ⟨y, hy, rfl⟩ := List.mem_map.mp hy'
    rw [hgid y hy]
    exact hnews.apart y hy r hr
  · intro r' hr'
    rw [hexecutions] at hr'
    rcases List.mem_append.mp hr' with hr | hr
    · exact h.fresh r' (hnews.executions ▸ List.mem_append_left _ hr)
    · obtain ⟨y, hy, rfl⟩ := List.mem_map.mp hr
      rw [hgid y hy]
      exact h.fresh y (hnews.executions ▸ List.mem_append_right _ hy)
  · rw [countFor_record _ _ (some x)]
    exact h.counts

/-- **A run is counted** for its report. -/
theorem Books.adds {tenant id : Int} {record : Option ExecutionRow}
    (h : Books coming s₀ (⟨(tenant, id), record, false⟩ ::ₘ others) s issued) (now : Instant) :
    Books coming s₀ (⟨(tenant, id), record, true⟩ ::ₘ others) (s.recordAttempt tenant id now).2
      issued := by
  rw [recordAttempt_snd]
  refine ⟨?_, h.fresh, ?_⟩
  · obtain ⟨news, hnews⟩ := h.records
    cases record with
    | none =>
      rw [records_cons_none] at hnews ⊢
      exact ⟨news, hnews.executions, hnews.noted, hnews.distinct, hnews.apart⟩
    | some x =>
      rw [records_cons_some] at hnews ⊢
      exact ⟨news, hnews.executions, hnews.noted, hnews.distinct, hnews.apart⟩
  · rw [changeDefinition, List.forall₂_map_right_iff]
    refine h.counts.imp fun r r' hgrown => ?_
    rw [countFor_cons] at hgrown ⊢
    by_cases hat : r'.isAt tenant id = true
    · obtain ⟨htenant, hid⟩ := DefinitionRow.isAt_iff.mp hat
      have hreport : (tenant, id) = (r.tenant, r.id) := by
        rw [← htenant, ← hid, hgrown.tenant, hgrown.id]
      rw [if_pos hat, if_pos ⟨hreport, rfl⟩]
      rw [if_neg (by simp)] at hgrown
      refine ⟨hgrown.tenant, hgrown.id, ?_, fun hzero => absurd hzero (Nat.succ_ne_zero _)⟩
      change r'.executionCount + 1 = _
      rw [hgrown.executionCount]
      omega
    · have hother : ¬ ((tenant, id) = (r.tenant, r.id) ∧ true = true) := by
        rintro ⟨hreport, -⟩
        rw [Prod.mk.injEq] at hreport
        refine hat (DefinitionRow.isAt_iff.mpr ⟨?_, ?_⟩)
        · rw [hgrown.tenant, hreport.1]
        · rw [hgrown.id, hreport.2]
      rw [if_neg hat, if_neg hother]
      rwa [if_neg (by simp)] at hgrown

/-- Who leaves records and counts alone, and gives no id back, leaves the books as they are. -/
theorem Books.of_counts {t : Store} {issued' : Nat} (h : Books coming s₀ notes s issued)
    (hrecords : t.executions = s.executions)
    (hcounts : List.Forall₂ (fun r r' => r'.counts = r.counts) s.definitions t.definitions)
    (hlater : ∀ id, coming issued' id → coming issued id) : Books coming s₀ notes t issued' where
  records := by
    obtain ⟨news, hnews⟩ := h.records
    exact ⟨news, hrecords.trans hnews.executions, hnews.noted, hnews.distinct, hnews.apart⟩
  fresh := by
    intro r hr hcoming
    rw [hrecords] at hr
    exact h.fresh r hr (hlater r.id hcoming)
  counts := by
    refine forall₂_comp (fun r r' r'' hgrown heq => ?_) h.counts hcounts
    simp only [DefinitionRow.counts, Prod.mk.injEq] at heq
    obtain ⟨htenant, hid, hcount, hlast⟩ := heq
    exact ⟨htenant.trans hgrown.tenant, hid.trans hgrown.id, hcount.trans hgrown.executionCount,
      fun hzero => hlast.trans (hgrown.lastExecutedAt hzero)⟩

end Store

/-! ## Runs -/

theorem World.saveFile_elsewhere {δ : Type} (dir name : String) (content : FileContent)
    (w : World δ) : (w.saveFile dir name content).2.store = w.store ∧
      (w.saveFile dir name content).2.issued = w.issued := by
  unfold saveFile
  dsimp only
  split <;> exact ⟨rfl, rfl⟩

/-- The record of a run says what its answer says. -/
def ExecutionRow.Tells (rowCap : Nat) (x : ExecutionRow) : Except RunFailure RunOutcome → Prop
  | .ok outcome => x.status = .completed ∧ x.id = outcome.execution ∧
      x.rowCount = some (outcome.rows.length : Int) ∧ outcome.rows.length ≤ rowCap ∧
      x.truncated = outcome.truncated ∧ x.error = none
  | .error failure => x.status = .failed ∧ x.id = failure.execution ∧
      x.error = some failure.fault.message

theorem ExecutionRow.Tells.ok_iff {rowCap : Nat} {x : ExecutionRow}
    {answer : Except RunFailure RunOutcome} (h : x.Tells rowCap answer) :
    (∃ outcome, answer = .ok outcome) ↔ x.status = .completed := by
  cases answer <;> simp [h.1]

theorem ExecutionRow.Tells.error_iff {rowCap : Nat} {x : ExecutionRow}
    {answer : Except RunFailure RunOutcome} (h : x.Tells rowCap answer) :
    (∃ failure, answer = .error failure) ↔ x.status = .failed := by
  cases answer <;> simp [h.1]

/-- The record is one of a run of a report that was asked for. -/
def ExecutionRow.IsOf (d : Definition) (r : RunRequest) (x : ExecutionRow) : Prop :=
  x.report = d.id ∧ x.tenant = r.tenant ∧ x.user = r.user ∧ x.trigger = r.trigger ∧
    x.schedule = r.schedule

/-- A fault that comes after the layout was compiled, and not from the store. -/
def Fault.IsLate (fault : Fault) : Prop := fault.kind ≠ .compile ∧ fault.kind ≠ .store

theorem Fault.isLate_ofQuery (err : QueryError) : (ofQuery err).IsLate := by
  cases err <;> exact ⟨FailureKind.noConfusion, FailureKind.noConfusion⟩

theorem Fault.isLate_ofExport (err : ExportError) : (ofExport err).IsLate :=
  ⟨FailureKind.noConfusion, FailureKind.noConfusion⟩

theorem Fault.isLate_of_mapError {ε α : Type} {cause : ε → Fault}
    (hcause : ∀ err, (cause err).IsLate) {answer : Except ε α} {fault : Fault}
    (h : answer.mapError cause = .error fault) : fault.IsLate := by
  cases answer with
  | ok a => cases h
  | error err =>
    cases h
    exact hcause err

/-- The ids that a host has yet to give once it has given a number of them. -/
def Host.coming {δ : Type} (h : Host δ) (given : Nat) (id : String) : Prop :=
  ∃ m, given ≤ m ∧ id = h.executionId m

namespace Engine

variable {δ : Type} {coming : Nat → String → Prop} {s₀ : Store} {d : Definition}
  {r : RunRequest} {id : String}

/-- The runs of a pool keep the books. -/
def Keeping (coming : Nat → String → Prop) (s₀ : Store) (notes : Multiset Attempt)
    (w : World δ) : Prop :=
  s₀.Books coming notes w.store w.issued

/-- A run that ended as its record says counts: if failed runs count, it has compiled, otherwise
it has completed. -/
def counts (e : Engine δ) (d : Definition) (tenant : Int) (x : ExecutionRow) : Bool :=
  if e.countFailed then (d.layout.compile e.catalog tenant).isOk
  else decide (x.status = .completed)

/-- A fault of a run: it is one of compiling exactly if the layout does not compile, and never one
of the store. -/
def FaultOf (e : Engine δ) (d : Definition) (r : RunRequest) (fault : Fault) : Prop :=
  (fault.kind = .compile ↔ (d.layout.compile e.catalog r.tenant).isOk = false) ∧
    fault.kind ≠ .store

/-- What a run that went well leaves: its layout compiles, and its file is where the record says. -/
def OutcomeOf (e : Engine δ) (d : Definition) (r : RunRequest) (x : ExecutionRow)
    (outcome : RunOutcome) : Prop :=
  (d.layout.compile e.catalog r.tenant).isOk = true ∧
    x.exportPath = outcome.artifact.bind (·.path)

/-- The note of a run that goes on. -/
def Underway (d : Definition) (r : RunRequest) (id : String) (counted : Bool) (a : Attempt) :
    Prop :=
  ∃ x, a = ⟨(d.tenant, d.id), some x, counted⟩ ∧ x.id = id ∧ x.status = .processing ∧
    x.error = none ∧ x.IsOf d r

/-- The note of a run whose steps have all been taken. One that went wrong is still to be
closed. -/
def Performed (e : Engine δ) (d : Definition) (r : RunRequest) (id : String)
    (answer : Except Fault RunOutcome) (a : Attempt) : Prop :=
  match answer with
  | .ok outcome => ∃ x, a = ⟨(d.tenant, d.id), some x, e.counts d r.tenant x⟩ ∧ x.id = id ∧
      x.IsOf d r ∧ x.Tells e.limits.rowCap (.ok outcome) ∧ e.OutcomeOf d r x outcome
  | .error fault =>
    Underway d r id (e.countFailed && (d.layout.compile e.catalog r.tenant).isOk) a ∧
      e.FaultOf d r fault

variable {e : Engine δ} {a : Attempt} {α : Type}

/-- What leaves the store alone needs no note. -/
theorem maintains_elsewhere {act : World δ → α × World δ}
    (hact : ∀ w, (act w).2.store = w.store ∧ (act w).2.issued = w.issued) :
    Maintains (Keeping coming s₀) (fun _ a' => a' = a) a (Process.atomically act) := by
  refine Process.maintains_atomically fun others w hw => ⟨a, ?_, rfl⟩
  unfold Keeping
  rw [(hact w).1, (hact w).2]
  exact hw

/-- A run that has not been counted is counted under a condition. -/
theorem maintains_count {c counted : Bool} {record : Option ExecutionRow} {β : Type}
    {f : Unit → World.Op δ Fault β} {post : Except Fault β → Attempt → Prop}
    (hcounted : c = true → counted = false)
    (hf : Maintains (Keeping coming s₀) post ⟨(d.tenant, d.id), record, counted || c⟩ (f ()).run) :
    Maintains (Keeping coming s₀) post ⟨(d.tenant, d.id), record, counted⟩
      (if c = true then World.always (e.recordAttempt d) >>= f else f ()).run := by
  cases c with
  | false =>
    rw [Bool.or_false] at hf
    exact hf
  | true =>
    obtain rfl := hcounted rfl
    refine World.maintains_op_bind (fun answer a => answer = .ok () ∧
      a = ⟨(d.tenant, d.id), record, true⟩) ?_ (fun _ _ h => nomatch h.1) ?_
    · have hstep : Maintains (Keeping coming s₀) (fun _ a => a = ⟨(d.tenant, d.id), record, true⟩)
          ⟨(d.tenant, d.id), record, false⟩
          (World.onStoreNow e.host fun now s => s.recordAttempt d.tenant d.id now) :=
        Process.maintains_atomically fun others w hw => ⟨_, Store.Books.adds hw _, rfl⟩
      exact World.maintains_always (hstep.bind fun _ _ ha => ⟨rfl, ha⟩)
    · rintro _ _ ⟨-, rfl⟩
      exact hf

/-- A record is moved on, and the run goes on. -/
theorem maintains_move {x : ExecutionRow} {report : Int × Int} {counted : Bool} {status : Status}
    (hmay : x.status.CanBecome status) {f : Instant → ExecutionRow → ExecutionRow}
    (hf : ∀ now, (f now x).id = x.id) (host : Host δ) :
    Maintains (Keeping coming s₀) (fun answer a => answer = .ok () ∧
      ∃ now, a = ⟨report, some { f now x with status }, counted⟩) ⟨report, some x, counted⟩
      (World.onStoreNow host fun now s => s.moveExecution x.id status (f now)) := by
  refine Process.maintains_atomically fun others w hw => ?_
  obtain ⟨hok, hbooks⟩ := Store.Books.moves hw hmay (hf (host.clock w.readings))
  exact ⟨_, hbooks, hok, _, rfl⟩

/-- Files are none of the store's business. -/
theorem maintains_exportResult (format : ExportFormat) (name : String)
    (columns : List OutputColumn) (rows : List (List Json)) :
    Maintains (Keeping coming s₀) (fun _ a' => a' = a) a
      (e.exportResult format name columns rows) := by
  refine maintains_elsewhere fun w => ?_
  dsimp only
  cases exportRows format name (w.now e.host).1 (columns.map (·.label)) rows with
  | error err => exact ⟨rfl, rfl⟩
  | ok artifact =>
    cases e.exportDir with
    | none => exact ⟨rfl, rfl⟩
    | some dir =>
      have hsaved := World.saveFile_elsewhere dir artifact.filename artifact.content
        (w.now e.host).2
      rcases hsave : (w.now e.host).2.saveFile dir artifact.filename artifact.content
        with ⟨_ | path, w'⟩
      all_goals
        rw [hsave] at hsaved
        simp only [hsave]
        exact hsaved

/-- The last steps of a run that went well. -/
theorem maintains_complete (outcome : RunOutcome) {x : ExecutionRow} {started : Instant}
    (hprocessing : x.status = .processing) (herror : x.error = none)
    (hof : x.IsOf d r) (hcompiles : (d.layout.compile e.catalog r.tenant).isOk = true)
    (hid : outcome.execution = x.id) (hrows : outcome.rows.length ≤ e.limits.rowCap) :
    Maintains (Keeping coming s₀) (e.Performed d r x.id)
      ⟨(d.tenant, d.id), some x, e.countFailed⟩ (do
        World.orFail .ofStore (World.onStoreNow e.host fun now s =>
          s.markCompleted x.id ⟨outcome.rows.length, elapsedMs started now, outcome.truncated,
            outcome.artifact.bind (·.path)⟩ now)
        if !e.countFailed then e.recordAttempt d
        return outcome : World.Op δ Fault RunOutcome).run := by
  refine World.maintains_op_bind (fun answer a => answer = .ok () ∧
    ∃ x', a = ⟨(d.tenant, d.id), some x', e.countFailed⟩ ∧ x'.id = x.id ∧ x'.IsOf d r ∧
      x'.Tells e.limits.rowCap (.ok outcome) ∧ e.OutcomeOf d r x' outcome) ?_
    (fun _ _ h => nomatch h.1) ?_
  · refine World.maintains_orFail ((maintains_move (by rw [hprocessing]; decide) (fun _ => rfl)
      e.host).mono ?_)
    rintro answer a ⟨rfl, now, rfl⟩
    exact ⟨rfl, _, rfl, rfl, hof, ⟨rfl, hid.symm, rfl, hrows, rfl, herror⟩, hcompiles, rfl⟩
  rintro _ _ ⟨-, x', rfl, hx', hof', htells, houtcome⟩
  refine maintains_count (by simp) ?_
  have hcounts : (e.countFailed || !e.countFailed) = e.counts d r.tenant x' := by
    rw [Bool.or_not_self, counts, hcompiles, decide_eq_true htells.1, ite_self]
  rw [hcounts]
  exact Process.maintains_pure ⟨x', rfl, hx', hof', htells, houtcome⟩

/-- **A run keeps the books**, whatever goes on beside it, and at its end its record says what its
answer says. -/
theorem maintains_perform {x : Execution} {opened : ExecutionRow} (hid : opened.id = x.id)
    (hpending : opened.status = .pending) (herror : opened.error = none)
    (hof : opened.IsOf d r) :
    Maintains (Keeping coming s₀) (e.Performed d r x.id) ⟨(d.tenant, d.id), some opened, false⟩
      (e.perform d r x).run := by
  unfold perform
  rw [← hid]
  -- the record is marked as being processed
  refine World.maintains_op_bind (fun answer a => answer = .ok () ∧
    Underway d r opened.id false a) ?_ (fun _ _ h => nomatch h.1) ?_
  · refine World.maintains_orFail ((maintains_move (by rw [hpending]; decide) (fun _ => rfl)
      e.host).mono ?_)
    rintro answer a ⟨rfl, now, rfl⟩
    exact ⟨rfl, _, rfl, rfl, rfl, herror, hof⟩
  rintro _ _ ⟨-, x', rfl, hx', hprocessing, herror', hof'⟩
  rw [← hx']
  -- the layout is compiled
  refine World.maintains_op_bind (fun answer a =>
    answer = (d.layout.compile e.catalog r.tenant).mapError .ofCompile ∧
      a = ⟨(d.tenant, d.id), some x', false⟩) ?_ ?_ ?_
  · exact World.maintains_orFail (Process.maintains_pure ⟨rfl, rfl⟩)
  · rintro err _ ⟨hfailed, rfl⟩
    cases hcompile : d.layout.compile e.catalog r.tenant with
    | ok compiled =>
      rw [hcompile] at hfailed
      cases hfailed
    | error cause =>
      rw [hcompile] at hfailed
      cases hfailed
      have hnot : (d.layout.compile e.catalog r.tenant).isOk = false := by
        rw [hcompile]
        rfl
      refine ⟨⟨x', ?_, rfl, hprocessing, herror', hof'⟩, ⟨fun _ => hnot, fun _ => rfl⟩, ?_⟩
      · rw [hnot, Bool.and_false]
      · exact FailureKind.noConfusion
  rintro compiled _ ⟨hcompiled, rfl⟩
  have hok : (d.layout.compile e.catalog r.tenant).isOk = true := by
    cases hcompile : d.layout.compile e.catalog r.tenant with
    | ok _ => rfl
    | error cause =>
      rw [hcompile] at hcompiled
      cases hcompiled
  refine maintains_count (fun _ => rfl) ?_
  rw [Bool.false_or]
  have hfailed : ∀ fault a, a = ⟨(d.tenant, d.id), some x', e.countFailed⟩ → fault.IsLate →
      e.Performed d r x'.id (.error fault) a := by
    rintro fault _ rfl hlate
    refine ⟨⟨x', ?_, rfl, hprocessing, herror', hof'⟩, ?_, hlate.2⟩
    · rw [hok, Bool.and_true]
    · rw [hok]
      exact ⟨fun hcompile => absurd hcompile hlate.1, fun hfalse => Bool.noConfusion hfalse⟩
  -- rows are fetched and perhaps exported, which leaves the store alone
  refine World.maintains_op_bind (fun answer a =>
    a = ⟨(d.tenant, d.id), some x', e.countFailed⟩ ∧ ∀ fault, answer = .error fault → fault.IsLate)
    ?_ (fun _ _ ha => hfailed _ _ ha.1 (ha.2 _ rfl)) ?_
  · refine World.maintains_orFail ((maintains_elsewhere fun w => ⟨rfl, rfl⟩).mono ?_)
    exact fun _ _ ha => ⟨ha, fun _ => Fault.isLate_of_mapError Fault.isLate_ofQuery⟩
  rintro found _ ⟨rfl, -⟩
  have hrows : ∀ formats, (e.formatter.formatRows formats (found.take e.limits.rowCap)).length
      ≤ e.limits.rowCap := by
    intro formats
    rw [CellFormatter.formatRows, List.length_map]
    exact List.length_take_le _ _
  cases r.exportAs with
  | none =>
    refine World.maintains_op_bind (fun answer a =>
      a = ⟨(d.tenant, d.id), some x', e.countFailed⟩ ∧ answer.isOk = true)
      (Process.maintains_pure ⟨rfl, rfl⟩) (fun _ _ ha => Bool.noConfusion ha.2) ?_
    rintro artifact _ ⟨rfl, -⟩
    exact maintains_complete ⟨x'.id, _, _, _, artifact⟩ hprocessing herror' hof' hok rfl (hrows _)
  | some format =>
    refine World.maintains_op_bind (fun answer a =>
      a = ⟨(d.tenant, d.id), some x', e.countFailed⟩ ∧
        ∀ fault, answer = .error fault → fault.IsLate)
      ?_ (fun _ _ ha => hfailed _ _ ha.1 (ha.2 _ rfl)) ?_
    · refine World.maintains_op_map some (World.maintains_orFail
        ((maintains_exportResult format d.name _ _).mono ?_))
      refine fun answer _ ha => ⟨ha, fun fault hfault => ?_⟩
      cases answer with
      | ok a => cases hfault
      | error err =>
        cases hfault
        exact Fault.isLate_ofExport err
    rintro artifact _ ⟨rfl, -⟩
    exact maintains_complete ⟨x'.id, _, _, _, artifact⟩ hprocessing herror' hof' hok rfl (hrows _)

/-- The note of a run that has ended. -/
def Settled (e : Engine δ) (d : Definition) (r : RunRequest)
    (answer : Except RunFailure RunOutcome) (a : Attempt) : Prop :=
  ∃ x, a = ⟨(d.tenant, d.id), some x, e.counts d r.tenant x⟩ ∧ x.IsOf d r ∧
    x.Tells e.limits.rowCap answer ∧
    match answer with
    | .ok outcome => e.OutcomeOf d r x outcome
    | .error failure => e.FaultOf d r failure.fault

/-- A run whose record is there. -/
def settle (e : Engine δ) (d : Definition) (r : RunRequest) (x : Execution) :
    Process (World δ) (Except RunFailure RunOutcome) := do
  match ← (e.perform d r x).run with
  | .ok outcome => return .ok outcome
  | .error fault =>
    let _ ← World.onStoreNow e.host fun now s =>
      s.markFailed x.id fault.message (some (elapsedMs x.createdAt now)) now
    return .error ⟨x.id, fault⟩

theorem execute_eq (e : Engine δ) (d : Definition) (r : RunRequest) :
    e.execute d r = e.openExecution d r >>= e.settle d r := rfl

/-- **A run whose record is there keeps the books to its end**, also where it goes wrong. -/
theorem maintains_settle {x : Execution} {opened : ExecutionRow} (hid : opened.id = x.id)
    (hpending : opened.status = .pending) (herror : opened.error = none)
    (hof : opened.IsOf d r) :
    Maintains (Keeping coming s₀) (e.Settled d r) ⟨(d.tenant, d.id), some opened, false⟩
      (e.settle d r x) := by
  refine (maintains_perform hid hpending herror hof).bind fun answer a ha => ?_
  cases answer with
  | ok outcome =>
    obtain ⟨x', rfl, -, hof', htells, houtcome⟩ := ha
    exact ⟨x', rfl, hof', htells, houtcome⟩
  | error fault =>
    obtain ⟨⟨x', rfl, hx', hprocessing, -, hof'⟩, hfault⟩ := ha
    rw [← hx']
    refine (maintains_move (by rw [hprocessing]; decide) (fun _ => rfl) e.host).bind ?_
    rintro _ _ ⟨-, now, rfl⟩
    let x'' : ExecutionRow :=
      { x' with
        completedAt := some (Time.rfc3339Micros now)
        durationMs := some (elapsedMs x.createdAt now), error := some fault.message
        status := .failed }
    refine ⟨x'', ?_, hof', ⟨rfl, rfl, rfl⟩, hfault⟩
    have hcounts : (e.countFailed && (d.layout.compile e.catalog r.tenant).isOk)
        = e.counts d r.tenant x'' := by
      rw [counts]
      cases e.countFailed <;> rfl
    rw [hcounts]

/-- **A run keeps the books from its beginning**, where the host gives no id twice. -/
theorem maintains_execute (hids : Function.Injective e.host.executionId) (d : Definition)
    (r : RunRequest) :
    Maintains (Keeping e.host.coming s₀) (e.Settled d r) ⟨(d.tenant, d.id), none, false⟩
      (e.execute d r) := by
  rw [execute_eq]
  let begun : Execution → Attempt → Prop := fun x a => ∃ opened : ExecutionRow,
    a = ⟨(d.tenant, d.id), some opened, false⟩ ∧ opened.id = x.id ∧ opened.status = .pending ∧
      opened.error = none ∧ opened.IsOf d r
  have hopen : Maintains (Keeping e.host.coming s₀) begun ⟨(d.tenant, d.id), none, false⟩
      (e.openExecution d r) := by
    refine Process.maintains_atomically fun others w hw => ?_
    have hunused : ∀ row ∈ w.store.executions, row.id ≠ e.host.executionId w.issued := by
      intro row hrow heq
      exact hw.fresh row hrow ⟨w.issued, Nat.le_refl _, heq⟩
    refine ⟨_, hw.opens hunused ?_ _ _, _, rfl, rfl, rfl, rfl, rfl, rfl, rfl, rfl, rfl⟩
    rintro id' ⟨m, hm, rfl⟩
    refine ⟨⟨m, Nat.le_of_succ_le hm, rfl⟩, fun heq => ?_⟩
    have hsame := hids heq
    omega
  refine hopen.bind fun x a ha => ?_
  obtain ⟨opened, rfl, hid, hpending, herror, hof⟩ := ha
  exact maintains_settle hid hpending herror hof

end Engine

/-! ## A run alone -/

/-- The row of a report after a run that may have counted for it. -/
def DefinitionRow.After (counted : Prop) (row row' : DefinitionRow) : Prop :=
  (counted → ∃ at_, row' =
    { row with executionCount := row.executionCount + 1, lastExecutedAt := at_ }) ∧
  (¬ counted → row' = row)

/-- A row that has grown, where nothing but its counts changed. -/
theorem DefinitionRow.Grown.eq {n : Nat} {r r' : DefinitionRow} (h : r.Grown n r')
    (hsame : r'.uncounted = r.uncounted) :
    r' = { r with executionCount := r.executionCount + n, lastExecutedAt := r'.lastExecutedAt } :=
  calc r' = { r'.uncounted with
        executionCount := r'.executionCount, lastExecutedAt := r'.lastExecutedAt } := rfl
    _ = { r.uncounted with
        executionCount := r.executionCount + n, lastExecutedAt := r'.lastExecutedAt } := by
      rw [hsame, h.executionCount]

namespace Engine

variable {δ : Type}

/-- **The books of one run.** A run adds one record, which ends completed or failed and says what
the run answers: rows within the cap and whether there were more, or the fault. The count of its
report grows by one if the run counts: if failed runs count, whenever it has compiled, otherwise
whenever it has completed. No other record, report or schedule changes. -/
theorem execute_accounts (e : Engine δ) (d : Definition) (r : RunRequest) (w : World δ)
    (hfresh : ∀ row ∈ w.store.executions, row.id ≠ e.host.executionId w.issued) :
    let answer := ((e.execute d r).run w).1
    let t := ((e.execute d r).run w).2.store
    ∃ x : ExecutionRow, t.executions = w.store.executions ++ [x] ∧ x.IsOf d r ∧
      ((∃ outcome, answer = .ok outcome) ↔ x.status = .completed) ∧
      ((∃ failure, answer = .error failure) ↔ x.status = .failed) ∧
      x.Tells e.limits.rowCap answer ∧
      List.Forall₂ (fun row row' => row.After
        (row.isAt d.tenant d.id = true ∧ e.counts d r.tenant x = true) row')
        w.store.definitions t.definitions ∧
      t.schedules = w.store.schedules := by
  intro answer t
  let begun := (e.openExecution d r).run w
  let opened : ExecutionRow := .opened (e.host.executionId w.issued)
    ⟨d.id, r.user, r.tenant, r.filters, r.trigger, r.schedule⟩ (e.host.clock w.readings)
  -- the record is opened, and then the books are kept to the end
  have hstart : w.store.Books (fun _ _ => False) ((⟨(d.tenant, d.id), none, false⟩ : Attempt) ::ₘ 0)
      w.store w.issued := Store.books_start (by simp) (fun _ _ => id)
  have hopened : Keeping (fun _ _ => False) w.store (⟨(d.tenant, d.id), some opened, false⟩ ::ₘ 0)
      begun.2 := hstart.opens hfresh (fun _ hfalse => hfalse.elim) _ _
  have hkeeps : Maintains (Keeping (fun _ _ => False) w.store) (e.Settled d r)
      ⟨(d.tenant, d.id), some opened, false⟩ (e.settle d r begun.1) :=
    maintains_settle rfl rfl rfl ⟨rfl, rfl, rfl, rfl, rfl⟩
  have hrun : (e.execute d r).run w = (e.settle d r begun.1).run begun.2 := by
    rw [execute_eq, Process.run_bind]
  obtain ⟨a, hbooks, x, rfl, hof, htells, -⟩ := hkeeps.run hopened
  rw [← hrun] at hbooks htells
  have hran : w.store.Ran t :=
    (e.each_execute d r).run (fun w => .refl w.store) (fun h h' => h.trans h') w
  refine ⟨x, ?_, hof, htells.ok_iff, htells.error_iff, htells, ?_, by simpa using hran.schedules⟩
  · obtain ⟨news, hnews⟩ := hbooks.records
    have hnoted := hnews.noted
    rw [records_cons_some, Multiset.filterMap_zero, Multiset.cons_zero, Multiset.coe_eq_singleton]
      at hnoted
    rw [← hnoted]
    exact hnews.executions
  · refine List.Forall₂.mp (fun row row' hsame hgrown => ?_) hran.forall₂_definitions hbooks.counts
    have heq := hgrown.eq hsame
    have hreport : (d.tenant, d.id) = (row.tenant, row.id) ↔ row.isAt d.tenant d.id = true := by
      rw [DefinitionRow.isAt_iff, Prod.mk.injEq, eq_comm, @eq_comm Int d.id]
    have hcount : countFor (⟨(d.tenant, d.id), some x, e.counts d r.tenant x⟩ ::ₘ 0)
        (row.tenant, row.id)
        = if row.isAt d.tenant d.id = true ∧ e.counts d r.tenant x = true then 1 else 0 := by
      simp only [countFor_cons, hreport, countFor_zero, Nat.zero_add]
    rw [hcount] at heq
    constructor
    · intro hcounted
      rw [if_pos hcounted] at heq
      exact ⟨row'.lastExecutedAt, heq⟩
    · intro hnot
      rw [hcount, if_neg hnot] at hgrown
      rw [if_neg hnot, hgrown.lastExecutedAt rfl] at heq
      rw [heq]
      simp

/-- A run of the shop's first report, in a store without runs. -/
theorem execute_accounts_office :
    (∀ row ∈ Scheduler.office.store.executions,
      row.id ≠ Scheduler.quietHost.executionId Scheduler.office.issued) ∧
    ∃ x : ExecutionRow,
      ((Scheduler.shopScheduler.engine.execute (salesReport 1 none)
        { tenant := 1, user := 1 }).run Scheduler.office).2.store.executions = [x] ∧
      x.Tells Scheduler.shopScheduler.engine.limits.rowCap
        ((Scheduler.shopScheduler.engine.execute (salesReport 1 none)
          { tenant := 1, user := 1 }).run Scheduler.office).1 := by
  have hfresh : ∀ row ∈ Scheduler.office.store.executions,
      row.id ≠ Scheduler.quietHost.executionId Scheduler.office.issued :=
    fun row hrow => absurd hrow List.not_mem_nil
  obtain ⟨x, hrows, -, -, -, htells, -, -⟩ := execute_accounts Scheduler.shopScheduler.engine
    (salesReport 1 none) { tenant := 1, user := 1 } Scheduler.office hfresh
  exact ⟨hfresh, x, hrows, htells⟩

end Engine

end TenantReports
