import TenantReports.Proofs.Store.Rows

/-!
# Calls on the store

Every change of the store is one of a few calls, here as data, so that it can be said what holds
after any calls in any order. A call that is refused, because what it is about is not there or a
run may not move on, leaves the whole store as it was. That needs a reason: a few operations write
first and read back what they wrote, and fail if that cannot be read. Such a failure is never told
as a missing row, for the row was just written.

## Main definitions

* `Store.Call`, `Store.Call.perform`: the calls, and what each does
* `StoreError.IsRefusal`: the errors of calls that are refused
* `Store.after`: the store after several calls

## Main results

* `Store.Call.perform_of_refused`: a refused call changes nothing
* `Store.Call.executions_of_other`: calls about reports and schedules leave runs alone
-/

namespace TenantReports

open Time (Instant)

/-- The call was refused: what it is about is not there, or may not move on. -/
def StoreError.IsRefusal (e : StoreError) : Prop := e ≠ .unreadable

/-- The error of an answer, if it is one. -/
def failure? {α : Type} : Except StoreError α → Option StoreError
  | .ok _ => none
  | .error e => some e

theorem failure?_eq_some {α : Type} {answer : Except StoreError α} {e : StoreError} :
    failure? answer = some e ↔ answer = .error e := by
  cases answer <;> simp [failure?]

namespace Store

/-- What can be asked of the store that changes it. -/
inductive Call where
  | createExecution (id : String) (new : NewExecution) (now : Instant)
  | markProcessing (id : String) (now : Instant)
  | markCompleted (id : String) (result : RunResult) (now : Instant)
  | markFailed (id error : String) (durationMs : Option Int) (now : Instant)
  | insertDefinition (d : Definition)
  | updateDefinition (d : Definition) (now : Instant)
  | deleteDefinition (tenant id : Int)
  | setDefault (tenant id : Int)
  | toggleFavorite (tenant id : Int)
  | recordAttempt (tenant id : Int) (now : Instant)
  | refreshScheduled (tenant id : Int)
  | insertSchedule (new : Schedule)
  | insertScheduleWithinCap (new : Schedule) (cap : Nat)
  | updateSchedule (new : Schedule) (now : Instant)
  | setScheduleActive (tenant id : Int) (active : Bool) (now : Instant)
  | deleteSchedule (tenant id : Int)
  | markScheduleRun (id : Int) (execution : Option String) (runAt now : Instant)
  | reschedule (id : Int) (nextRunAt now : Instant)

/-- The error of an operation, if it fails, and the store after it. -/
def outcome {α : Type} (done : Except StoreError α × Store) : Option StoreError × Store :=
  (failure? done.1, done.2)

namespace Call

/-- The error of a call, if it fails, and the store after it. -/
def perform : Call → Store → Option StoreError × Store
  | .createExecution id new now, s => (none, (s.createExecution id new now).2)
  | .markProcessing id now, s => outcome (s.markProcessing id now)
  | .markCompleted id result now, s => outcome (s.markCompleted id result now)
  | .markFailed id error durationMs now, s => outcome (s.markFailed id error durationMs now)
  | .insertDefinition d, s => outcome (s.insertDefinition d)
  | .updateDefinition d now, s => outcome (s.updateDefinition d now)
  | .deleteDefinition tenant id, s => (none, (s.deleteDefinition tenant id).2)
  | .setDefault tenant id, s => outcome (s.setDefault tenant id)
  | .toggleFavorite tenant id, s => outcome (s.toggleFavorite tenant id)
  | .recordAttempt tenant id now, s => outcome (s.recordAttempt tenant id now)
  | .refreshScheduled tenant id, s => (none, (s.refreshScheduled tenant id).2)
  | .insertSchedule new, s => outcome (s.insertSchedule new)
  | .insertScheduleWithinCap new cap, s => outcome (s.insertScheduleWithinCap new cap)
  | .updateSchedule new now, s => outcome (s.updateSchedule new now)
  | .setScheduleActive tenant id active now, s => outcome (s.setScheduleActive tenant id active now)
  | .deleteSchedule tenant id, s => (none, (s.deleteSchedule tenant id).2)
  | .markScheduleRun id execution runAt now, s => outcome (s.markScheduleRun id execution runAt now)
  | .reschedule id nextRunAt now, s => outcome (s.reschedule id nextRunAt now)

/-- The call opens or moves on a run. -/
def IsRun : Call → Prop
  | .createExecution .. | .markProcessing .. | .markCompleted .. | .markFailed .. => True
  | _ => False

end Call

/-- The store after several calls. -/
def after (s : Store) : List Call → Store
  | [] => s
  | c :: calls => (c.perform s).2.after calls

variable {s : Store} {tenant id : Int}

theorem after_append (s : Store) (earlier later : List Call) :
    s.after (earlier ++ later) = (s.after earlier).after later := by
  induction earlier generalizing s with
  | nil => rfl
  | cons c calls ih => exact ih (c.perform s).2

/-! ## Reading back what was written -/

section Reading

variable {ρ α : Type} {read : ρ → Option α} {row : Option ρ}

theorem readRow_eq_error {e : StoreError} (h : readRow read row = .error e) : e = .unreadable := by
  cases row with
  | none => cases h
  | some r =>
    cases hread : read r <;> simp [readRow, orUnreadable, hread, Except.map] at h
    exact h.symm

theorem readRow_eq_ok_none : readRow read row = .ok none ↔ row = none := by
  cases row with
  | none => simp [readRow]
  | some r => cases hread : read r <;> simp [readRow, orUnreadable, hread, Except.map]

end Reading

variable {e : StoreError}

/-- A report that is refused is not there. -/
theorem definitionRow?_eq_none (h : s.needDefinition tenant id = .error e) (he : e.IsRefusal) :
    s.definitionRow? tenant id = none := by
  unfold needDefinition at h
  rcases hget : s.getDefinition tenant id with err | _ | d
  · rw [hget] at h
    cases h
    exact absurd (readRow_eq_error hget) he
  · exact readRow_eq_ok_none.mp hget
  · rw [hget] at h
    cases h

/-- Neither is a schedule that is refused. -/
theorem find?_schedules_eq_none (h : s.needSchedule tenant id = .error e) (he : e.IsRefusal) :
    s.schedules.find? (ScheduleRow.isAt tenant id) = none := by
  unfold needSchedule at h
  rcases hget : s.getSchedule tenant id with err | _ | d
  · rw [hget] at h
    cases h
    exact absurd (readRow_eq_error hget) he
  · exact readRow_eq_ok_none.mp hget
  · rw [hget] at h
    cases h

/-! ## Refused calls -/

theorem moveExecution_of_error {execution : String} {status : Status}
    {f : ExecutionRow → ExecutionRow} (h : (s.moveExecution execution status f).1 = .error e) :
    (s.moveExecution execution status f).2 = s := by
  unfold moveExecution at h ⊢
  split
  · rfl
  · rename_i hfind
    rw [hfind] at h
    dsimp only at h
    split
    · rename_i hmay
      rw [if_pos hmay] at h
      cases h
    · rfl

/-- A new report is there, so it cannot be refused. -/
theorem insertDefinition_not_refused {d : Definition} (h : (s.insertDefinition d).1 = .error e) :
    ¬ e.IsRefusal := by
  intro he
  have hnone := definitionRow?_eq_none h he
  rw [definitionRow?, List.find?_eq_none] at hnone
  refine hnone _ (List.mem_append_right _ List.mem_cons_self) (DefinitionRow.isAt_iff.mpr ?_)
  exact ⟨rfl, rfl⟩

/-- A change of a report does not take it away. -/
theorem definitionRow?_isSome_of_map {f : DefinitionRow → DefinitionRow} {current : Definition}
    (hread : s.needDefinition tenant id = .ok current)
    (hf : ∀ r, r.isAt tenant id = true → (f r).isAt tenant id = true) :
    definitionRow? { s with definitions := s.definitions.map f } tenant id ≠ none := by
  obtain ⟨r, hr, hat, -⟩ := row_of_getDefinition (needDefinition_eq_ok.mp hread)
  intro hnone
  rw [definitionRow?, List.find?_eq_none] at hnone
  exact hnone (f r) (List.mem_map_of_mem hr) (hf r hat)

theorem updateDefinition_of_refused {d : Definition} {now : Instant}
    (h : (s.updateDefinition d now).1 = .error e) (he : e.IsRefusal) :
    (s.updateDefinition d now).2 = s := by
  unfold updateDefinition at h ⊢
  split
  · rfl
  · rename_i current hread
    rw [hread] at h
    refine absurd (definitionRow?_eq_none h he) (definitionRow?_isSome_of_map hread ?_)
    intro r hat
    rw [if_pos hat]
    exact hat

theorem setDefault_of_refused (h : (s.setDefault tenant id).1 = .error e) (he : e.IsRefusal) :
    (s.setDefault tenant id).2 = s := by
  unfold setDefault at h ⊢
  split
  · rfl
  · rename_i current hread
    rw [hread] at h
    refine absurd (definitionRow?_eq_none h he) (definitionRow?_isSome_of_map hread ?_)
    intro r hat
    rw [if_pos hat]
    exact hat

theorem toggleFavorite_of_error (h : (s.toggleFavorite tenant id).1 = .error e) :
    (s.toggleFavorite tenant id).2 = s := by
  unfold toggleFavorite at h ⊢
  split at h
  · rfl
  · cases h

theorem recordAttempt_of_error {now : Instant} (h : (s.recordAttempt tenant id now).1 = .error e) :
    (s.recordAttempt tenant id now).2 = s := by
  unfold recordAttempt at h ⊢
  split at h
  · rfl
  · cases h

/-- A new schedule is there, so it cannot be refused. -/
theorem insertSchedule_not_refused {new : Schedule} (h : (s.insertSchedule new).1 = .error e) :
    ¬ e.IsRefusal := by
  intro he
  have hnone := find?_schedules_eq_none h he
  rw [List.find?_eq_none] at hnone
  refine hnone _ (List.mem_append_right _ List.mem_cons_self) (ScheduleRow.isAt_iff.mpr ?_)
  exact ⟨rfl, rfl⟩

theorem updateSchedule_of_refused {new : Schedule} {now : Instant}
    (h : (s.updateSchedule new now).1 = .error e) (he : e.IsRefusal) :
    (s.updateSchedule new now).2 = s := by
  unfold updateSchedule at h ⊢
  dsimp only at h ⊢
  split
  · rfl
  · rename_i t hchanged
    rw [hchanged] at h
    -- some row is the one that was written, and still is
    have hnone := find?_schedules_eq_none h he
    unfold changeSchedules at hchanged
    split at hchanged
    · rename_i hany
      cases hchanged
      obtain ⟨r, hr, hat⟩ := List.any_eq_true.mp hany
      rw [List.find?_eq_none] at hnone
      refine absurd ?_ (hnone _ (List.mem_map_of_mem hr))
      rw [if_pos hat]
      exact hat
    · cases hchanged

theorem markScheduleRun_of_error {execution : Option String} {runAt now : Instant}
    (h : (s.markScheduleRun id execution runAt now).1 = .error e) :
    (s.markScheduleRun id execution runAt now).2 = s := by
  unfold markScheduleRun at h ⊢
  split at h
  · rfl
  · cases h

theorem reschedule_of_error {nextRunAt now : Instant}
    (h : (s.reschedule id nextRunAt now).1 = .error e) : (s.reschedule id nextRunAt now).2 = s := by
  unfold reschedule at h ⊢
  split at h
  · rfl
  · cases h

namespace Call

/-- **A refused call changes nothing.** -/
theorem perform_of_refused {c : Call} (h : (c.perform s).1 = some e) (he : e.IsRefusal) :
    (c.perform s).2 = s := by
  cases c with
  | createExecution | deleteDefinition | refreshScheduled | deleteSchedule => cases h
  | markProcessing | markCompleted | markFailed =>
    exact moveExecution_of_error (failure?_eq_some.mp h)
  | insertDefinition => exact absurd he (insertDefinition_not_refused (failure?_eq_some.mp h))
  | updateDefinition => exact updateDefinition_of_refused (failure?_eq_some.mp h) he
  | setDefault => exact setDefault_of_refused (failure?_eq_some.mp h) he
  | toggleFavorite => exact toggleFavorite_of_error (failure?_eq_some.mp h)
  | recordAttempt => exact recordAttempt_of_error (failure?_eq_some.mp h)
  | insertSchedule => exact absurd he (insertSchedule_not_refused (failure?_eq_some.mp h))
  | insertScheduleWithinCap =>
    refine insertScheduleWithinCap_of_not_saved fun saved hsaved => ?_
    rw [failure?_eq_some.mp h] at hsaved
    cases hsaved
  | updateSchedule => exact updateSchedule_of_refused (failure?_eq_some.mp h) he
  | setScheduleActive => exact setScheduleActive_of_error (failure?_eq_some.mp h)
  | markScheduleRun => exact markScheduleRun_of_error (failure?_eq_some.mp h)
  | reschedule => exact reschedule_of_error (failure?_eq_some.mp h)

/-- Calls that are not about runs leave runs alone. -/
theorem executions_of_other {c : Call} (h : ¬ c.IsRun) :
    (c.perform s).2.executions = s.executions := by
  have hsame : ∀ {t u : Store}, t = u → u.executions = s.executions →
      t.executions = s.executions := fun heq hrows => heq ▸ hrows
  cases c with
  | createExecution | markProcessing | markCompleted | markFailed => exact absurd trivial h
  | insertDefinition | deleteDefinition | refreshScheduled | insertSchedule | deleteSchedule => rfl
  | updateDefinition d now =>
    rcases updateDefinition_cases s d now with heq | ⟨version, heq⟩
    · exact hsame heq rfl
    · exact hsame heq rfl
  | setDefault tenant id =>
    rcases setDefault_cases s tenant id with heq | ⟨row, -, -, heq⟩
    · exact hsame heq rfl
    · exact hsame heq rfl
  | toggleFavorite => exact hsame toggleFavorite_snd rfl
  | recordAttempt tenant id now => exact hsame (recordAttempt_snd now) rfl
  | insertScheduleWithinCap new cap =>
    rcases insertScheduleWithinCap_cases s new cap with ⟨-, heq⟩ | ⟨-, -, heq⟩
    · exact hsame heq rfl
    · exact hsame heq rfl
  | updateSchedule new now => exact hsame (updateSchedule_snd s new now) rfl
  | setScheduleActive => exact hsame (setScheduleActive_snd s _ _ _ _) rfl
  | markScheduleRun => exact hsame (markScheduleRun_snd s _ _ _ _) rfl
  | reschedule => exact hsame (reschedule_snd s _ _ _) rfl

end Call

end Store

end TenantReports
