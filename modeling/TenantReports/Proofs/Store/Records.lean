import Mathlib.Data.List.Destutter
import TenantReports.Proofs.Store.Calls
import TenantReports.Proofs.Store.Texts

/-!
# Records of runs

A record is pending, then processing, then completed or failed, or it fails at once; each state
comes with its own fields, and a record that ended never changes. This holds whatever is asked of
the store, in any order, deletions of reports and schedules included: their runs stay. What a call
can do to the records is said once, in `Store.Call.records_cases`; all else follows from it by
induction over the calls.

## Main definitions

* `ExecutionRow.Moves`: one step of a record
* `ExecutionRow.Sound`: the fields that go with each state
* `Store.Admits`: new runs get new ids
* `Store.history`: the states that a run was in, one after the other
* `Status.courses`: the whole courses of a run

## Main results

* `Store.Call.records_cases`: a call leaves the records alone, adds one or moves one on
* `Store.Recorded.history_isCourse`: the states of a run follow one of the courses
* `Store.records_kept`: records stay, and stay as they are once they ended
-/

namespace TenantReports

open Time (Instant)

/-! ## Rows -/

namespace ExecutionRow

/-- The record of a run that was just opened. -/
def opened (id : String) (new : NewExecution) (now : Instant) : ExecutionRow :=
  { id, report := new.report, user := new.user, tenant := new.tenant, trigger := new.trigger,
    schedule := new.schedule, filters := new.filters.text, createdAt := Time.rfc3339Micros now }

/-- One step of a record: the run begins, ends well or fails. -/
inductive Moves : ExecutionRow → ExecutionRow → Prop
  | begins {r : ExecutionRow} (now : Instant) (h : r.status.CanBecome .processing) :
    Moves r { r with startedAt := some (Time.rfc3339Micros now), status := .processing }
  | completes {r : ExecutionRow} (result : RunResult) (now : Instant)
    (h : r.status.CanBecome .completed) :
    Moves r { r with
      completedAt := some (Time.rfc3339Micros now), durationMs := some result.durationMs
      rowCount := some result.rowCount, truncated := result.truncated
      exportPath := result.exportPath, status := .completed }
  | fails {r : ExecutionRow} (error : String) (durationMs : Option Int) (now : Instant)
    (h : r.status.CanBecome .failed) :
    Moves r { r with
      completedAt := some (Time.rfc3339Micros now), durationMs, error := some error
      status := .failed }

/-- The fields that go with the state of a record. -/
def Sound (r : ExecutionRow) : Prop :=
  match r.status with
  | .pending => r.startedAt = none ∧ r.completedAt = none ∧ r.durationMs = none ∧
      r.rowCount = none ∧ r.error = none ∧ r.exportPath = none ∧ r.truncated = false
  | .processing => r.startedAt.isSome ∧ r.completedAt = none ∧ r.durationMs = none ∧
      r.rowCount = none ∧ r.error = none ∧ r.exportPath = none ∧ r.truncated = false
  | .completed => r.startedAt.isSome ∧ r.completedAt.isSome ∧ r.durationMs.isSome ∧
      r.rowCount.isSome ∧ r.error = none
  | .failed => r.completedAt.isSome ∧ r.error.isSome ∧ r.rowCount = none ∧
      r.exportPath = none ∧ r.truncated = false

theorem sound_opened (id : String) (new : NewExecution) (now : Instant) :
    (opened id new now).Sound := ⟨rfl, rfl, rfl, rfl, rfl, rfl, rfl⟩

variable {r r' : ExecutionRow}

theorem Moves.id_eq (h : r.Moves r') : r'.id = r.id := by
  cases h <;> rfl

theorem Moves.canBecome (h : r.Moves r') : r.status.CanBecome r'.status := by
  cases h <;> assumption

/-- **A step of a record brings the fields that go with its new state.** -/
theorem Moves.sound (h : r.Moves r') (hr : r.Sound) : r'.Sound := by
  unfold Sound at hr
  cases h with
  | begins now h =>
    -- only a pending record may begin
    cases hstatus : r.status <;> rw [hstatus] at h hr <;> first | exact absurd h (by decide) | skip
    obtain ⟨-, hrest⟩ := hr
    exact ⟨rfl, hrest⟩
  | completes result now h =>
    cases hstatus : r.status <;> rw [hstatus] at h hr <;> first | exact absurd h (by decide) | skip
    obtain ⟨hstarted, -, -, -, herror, -⟩ := hr
    exact ⟨hstarted, rfl, rfl, rfl, herror⟩
  | fails error durationMs now h =>
    cases hstatus : r.status <;> rw [hstatus] at h hr <;> first | exact absurd h (by decide) | skip
    all_goals
      obtain ⟨-, -, -, hrows, -, hpath, htruncated⟩ := hr
      exact ⟨rfl, rfl, hrows, hpath, htruncated⟩

/-- A record that ended takes no step. -/
theorem Moves.not_isTerminal (h : r.Moves r') : r.status.isTerminal = false := by
  have hcan := h.canBecome
  cases hstatus : r.status <;> rw [hstatus] at hcan <;>
    first | rfl | exact absurd hcan List.not_mem_nil

end ExecutionRow

/-! ## Calls -/

namespace Store

/-- A new run has an id that no run has. -/
def Call.IsFresh (s : Store) : Call → Prop
  | .createExecution id _ _ => ∀ r ∈ s.executions, r.id ≠ id
  | _ => True

/-- Each new run of several calls has an id that no run has. -/
def Admits (s : Store) : List Call → Prop
  | [] => True
  | c :: calls => c.IsFresh s ∧ (c.perform s).2.Admits calls

variable {s : Store}

theorem admits_append {earlier later : List Call} :
    s.Admits (earlier ++ later) ↔ s.Admits earlier ∧ (s.after earlier).Admits later := by
  induction earlier generalizing s with
  | nil => simp [Admits, after]
  | cons c calls ih => rw [List.cons_append, Admits, ih, Admits, after, and_assoc]

/-- The ids of runs are given once. -/
abbrev DistinctRuns (s : Store) : Prop := (s.executions.map (·.id)).Nodup

/-- Moving a run on leaves the records as they are, or changes the one record that has its id. -/
theorem moveExecution_cases (hids : s.DistinctRuns) (id : String) (status : Status)
    (f : ExecutionRow → ExecutionRow) :
    (s.moveExecution id status f).2.executions = s.executions ∨
      ∃ before r after, s.executions = before ++ r :: after ∧ r.status.CanBecome status ∧
        (s.moveExecution id status f).2.executions = before ++ { f r with status } :: after := by
  unfold moveExecution
  split
  · exact .inl rfl
  · rename_i r hfind
    split
    · rename_i hmay
      obtain ⟨hid, before, after, hrows, hbefore⟩ := List.find?_eq_some_iff_append.mp hfind
      refine .inr ⟨before, r, after, hrows, hmay, ?_⟩
      -- no other row has the id: not before the first that has it, and not after it
      rw [DistinctRuns, hrows, List.map_append, List.map_cons, List.nodup_append] at hids
      have hafter : ∀ a ∈ after, ¬ (a.id == id) = true := by
        intro a ha hsame
        refine (List.nodup_cons.mp hids.2.1).1 ?_
        rw [beq_iff_eq.mp hid, ← beq_iff_eq.mp hsame]
        exact List.mem_map_of_mem ha
      dsimp only
      rw [hrows, List.map_append, List.map_cons, if_pos hid]
      congr 1
      · conv_rhs => rw [← List.map_id before]
        refine List.map_congr_left fun a ha => if_neg ?_
        simpa using hbefore a ha
      · congr 1
        conv_rhs => rw [← List.map_id after]
        exact List.map_congr_left fun a ha => if_neg (hafter a ha)
    · exact .inl rfl

/-- **All that a call can do to the records**: leave them as they are, add one, or move one on. -/
theorem Call.records_cases (hids : s.DistinctRuns) (c : Call) :
    (c.perform s).2.executions = s.executions ∨
      (∃ id new now, c = .createExecution id new now ∧
        (c.perform s).2.executions = s.executions ++ [.opened id new now]) ∨
      ∃ before r r' after, s.executions = before ++ r :: after ∧ r.Moves r' ∧
        (c.perform s).2.executions = before ++ r' :: after := by
  by_cases hrun : c.IsRun
  case neg => exact .inl (executions_of_other hrun)
  cases c with
  | createExecution id new now => exact .inr (.inl ⟨id, new, now, rfl, rfl⟩)
  | markProcessing id now =>
    rcases moveExecution_cases hids id .processing _ with hsame | ⟨before, r, after, hrows, h, hmoved⟩
    · exact .inl hsame
    · exact .inr (.inr ⟨before, r, _, after, hrows, .begins now h, hmoved⟩)
  | markCompleted id result now =>
    rcases moveExecution_cases hids id .completed _ with hsame | ⟨before, r, after, hrows, h, hmoved⟩
    · exact .inl hsame
    · exact .inr (.inr ⟨before, r, _, after, hrows, .completes result now h, hmoved⟩)
  | markFailed id error durationMs now =>
    rcases moveExecution_cases hids id .failed _ with hsame | ⟨before, r, after, hrows, h, hmoved⟩
    · exact .inl hsame
    · exact .inr (.inr ⟨before, r, _, after, hrows, .fails error durationMs now h, hmoved⟩)
  | _ => exact absurd hrun not_false

/-! ## Records stay -/

/-- What calls do to each record: it stays, or moves on to a state that may follow. -/
theorem Call.exists_record (hids : s.DistinctRuns) (c : Call) {r : ExecutionRow}
    (hr : r ∈ s.executions) :
    ∃ r' ∈ (c.perform s).2.executions, r'.id = r.id ∧ (r' = r ∨ r.Moves r') := by
  rcases c.records_cases hids with hsame | ⟨id, new, now, -, hadded⟩ |
    ⟨before, moved, moved', after, hrows, hmoves, hmoved⟩
  · exact ⟨r, hsame ▸ hr, rfl, .inl rfl⟩
  · exact ⟨r, hadded ▸ List.mem_append_left _ hr, rfl, .inl rfl⟩
  · rw [hmoved]
    rw [hrows, List.mem_append, List.mem_cons] at hr
    rcases hr with hr | rfl | hr
    · exact ⟨r, List.mem_append_left _ hr, rfl, .inl rfl⟩
    · exact ⟨moved', List.mem_append_right _ List.mem_cons_self, hmoves.id_eq, .inr hmoves⟩
    · exact ⟨r, List.mem_append_right _ (List.mem_cons_of_mem _ hr), rfl, .inl rfl⟩

/-- Ids given once, and records with the fields of their states. -/
structure Recorded (s : Store) : Prop where
  distinct : s.DistinctRuns
  sound : ∀ r ∈ s.executions, r.Sound

theorem recorded_empty : Recorded {} := ⟨List.nodup_nil, by simp⟩

theorem Recorded.perform (h : s.Recorded) {c : Call} (hfresh : c.IsFresh s) :
    (c.perform s).2.Recorded := by
  rcases c.records_cases h.distinct with hsame | ⟨id, new, now, rfl, hadded⟩ |
    ⟨before, r, r', after, hrows, hmoves, hmoved⟩
  · exact ⟨by rw [DistinctRuns, hsame]; exact h.distinct, by rw [hsame]; exact h.sound⟩
  · constructor
    · rw [DistinctRuns, hadded, List.map_append, List.nodup_append]
      refine ⟨h.distinct, List.nodup_singleton _, fun a ha b hb heq => ?_⟩
      obtain ⟨r, hr, rfl⟩ := List.mem_map.mp ha
      exact hfresh r hr (heq.trans (List.mem_singleton.mp hb))
    · intro r hr
      rw [hadded, List.mem_append, List.mem_singleton] at hr
      rcases hr with hr | rfl
      · exact h.sound r hr
      · exact ExecutionRow.sound_opened id new now
  · have hmem : ∀ a, a ∈ before ∨ a = r ∨ a ∈ after → a ∈ s.executions := by
      intro a ha
      rw [hrows, List.mem_append, List.mem_cons]
      exact ha
    constructor
    · have hids : s.executions.map (·.id) = (c.perform s).2.executions.map (·.id) := by
        rw [hrows, hmoved]
        simp [hmoves.id_eq]
      rw [DistinctRuns, ← hids]
      exact h.distinct
    · intro a ha
      rw [hmoved, List.mem_append, List.mem_cons] at ha
      rcases ha with ha | rfl | ha
      · exact h.sound a (hmem a (.inl ha))
      · exact hmoves.sound (h.sound r (hmem r (.inr (.inl rfl))))
      · exact h.sound a (hmem a (.inr (.inr ha)))

theorem Recorded.after (h : s.Recorded) {calls : List Call} (hfresh : s.Admits calls) :
    (s.after calls).Recorded := by
  induction calls generalizing s with
  | nil => exact h
  | cons c calls ih => exact ih (h.perform hfresh.1) hfresh.2

/-- A record is there after any calls, as it was if it had ended. -/
theorem Recorded.exists_record (h : s.Recorded) {calls : List Call} (hfresh : s.Admits calls)
    {r : ExecutionRow} (hr : r ∈ s.executions) :
    ∃ r' ∈ (s.after calls).executions,
      r'.id = r.id ∧ (r.status.isTerminal = true → r' = r) := by
  induction calls generalizing s r with
  | nil => exact ⟨r, hr, rfl, fun _ => rfl⟩
  | cons c calls ih =>
    obtain ⟨r₁, hr₁, hid₁, hstep⟩ := c.exists_record h.distinct hr
    obtain ⟨r₂, hr₂, hid₂, hkept⟩ := ih (h.perform hfresh.1) hfresh.2 hr₁
    refine ⟨r₂, hr₂, hid₂.trans hid₁, fun hended => ?_⟩
    have hstays : r₁ = r := by
      rcases hstep with rfl | hmoves
      · rfl
      · rw [hmoves.not_isTerminal] at hended
        cases hended
    rw [hstays] at hkept
    exact hkept hended

/-! ## The states of a run -/

/-- The state of a run, if it is there. -/
def status? (s : Store) (id : String) : Option Status :=
  (s.executions.find? (·.id == id)).map (·.status)

/-- The state of a run before several calls and after each of them, for as long as it is there. -/
def statuses (s : Store) (id : String) : List Call → List Status
  | [] => (s.status? id).toList
  | c :: calls => (s.status? id).toList ++ (c.perform s).2.statuses id calls

/-- The states that a run was in, one after the other. -/
def history (s : Store) (id : String) (calls : List Call) : List Status :=
  (s.statuses id calls).destutter (· ≠ ·)

/-- What a call does to the state of a run: nothing, or it opens it, or moves it on. -/
theorem Call.status?_cases (hids : s.DistinctRuns) (c : Call) (id : String) :
    (c.perform s).2.status? id = s.status? id ∨
      (s.status? id = none ∧ (c.perform s).2.status? id = some .pending) ∨
      ∃ a b, s.status? id = some a ∧ (c.perform s).2.status? id = some b ∧ a.CanBecome b := by
  unfold status?
  rcases c.records_cases hids with hsame | ⟨other, new, now, -, hadded⟩ |
    ⟨before, r, r', after, hrows, hmoves, hmoved⟩
  · rw [hsame]
    exact .inl rfl
  · rw [hadded, List.find?_append, List.find?_singleton]
    cases s.executions.find? (·.id == id) with
    | some r => exact .inl rfl
    | none =>
      split
      · exact .inr (.inl ⟨rfl, rfl⟩)
      · exact .inl rfl
  · rw [hrows, hmoved, List.find?_append, List.find?_append, List.find?_cons, List.find?_cons,
      hmoves.id_eq]
    cases before.find? (·.id == id) with
    | some a => exact .inl rfl
    | none =>
      split
      · exact .inr (.inr ⟨r.status, r'.status, rfl, rfl, hmoves.canBecome⟩)
      · exact .inl rfl

/-- From one call to the next the state of a run stays or moves on, and a run begins as pending. -/
theorem Recorded.statuses (h : s.Recorded) {calls : List Call} (hfresh : s.Admits calls)
    (id : String) :
    (s.statuses id calls).IsChain (fun a b => a = b ∨ a.CanBecome b) ∧
      ∀ a ∈ (s.statuses id calls).head?,
        s.status? id = some a ∨ (s.status? id = none ∧ a = .pending) := by
  induction calls generalizing s with
  | nil => cases hstatus : s.status? id <;> simp [Store.statuses, hstatus]
  | cons c calls ih =>
    obtain ⟨hchain, hhead⟩ := ih (h.perform hfresh.1) hfresh.2
    have hstep := c.status?_cases h.distinct id
    unfold Store.statuses
    cases hstatus : s.status? id with
    | none =>
      rw [hstatus] at hstep
      refine ⟨hchain, fun a ha => .inr ⟨rfl, ?_⟩⟩
      rcases hhead a ha with hsome | ⟨-, hpending⟩
      · rcases hstep with hsame | ⟨-, hopened⟩ | ⟨_, _, hnone, -, -⟩
        · rw [hsame] at hsome
          cases hsome
        · rw [hopened] at hsome
          exact (Option.some.inj hsome).symm
        · cases hnone
      · exact hpending
    | some a =>
      rw [hstatus] at hstep
      refine ⟨List.isChain_cons.mpr ⟨fun b hb => ?_, hchain⟩, fun a' ha' => .inl ha'⟩
      rcases hhead b hb with hsome | ⟨hgone, -⟩
      · rcases hstep with hsame | ⟨hnone, -⟩ | ⟨a', b', ha', hb', hcan⟩
        · rw [hsame] at hsome
          exact .inl (Option.some.inj hsome)
        · cases hnone
        · rw [hb'] at hsome
          cases ha'
          cases hsome
          exact .inr hcan
      · -- a run that is there does not disappear
        rcases hstep with hsame | ⟨hnone, -⟩ | ⟨_, _, -, hb', -⟩
        · rw [hsame] at hgone
          cases hgone
        · cases hnone
        · rw [hb'] at hgone
          cases hgone

end Store

/-- The whole courses of a run. -/
def Status.courses : List (List Status) :=
  [[.pending, .processing, .completed], [.pending, .processing, .failed], [.pending, .failed]]

/-- States that follow each other from the first on are the beginning of a course. -/
theorem Status.exists_course {states : List Status} (hchain : states.IsChain CanBecome)
    (hhead : ∀ a ∈ states.head?, a = .pending) : ∃ course ∈ courses, states <+: course := by
  match states with
  | [] => exact ⟨_, List.mem_cons_self, List.nil_prefix⟩
  | [a] =>
    obtain rfl := hhead a rfl
    decide
  | [a, b] =>
    obtain rfl := hhead a rfl
    have hab := (List.isChain_cons_cons.mp hchain).1
    revert hab
    cases b <;> decide
  | [a, b, c] =>
    obtain rfl := hhead a rfl
    obtain ⟨hab, hchain⟩ := List.isChain_cons_cons.mp hchain
    have hbc := (List.isChain_cons_cons.mp hchain).1
    revert hab hbc
    cases b <;> cases c <;> decide
  | a :: b :: c :: d :: rest =>
    obtain rfl := hhead a rfl
    obtain ⟨hab, hchain⟩ := List.isChain_cons_cons.mp hchain
    obtain ⟨hbc, hchain⟩ := List.isChain_cons_cons.mp hchain
    have hcd := (List.isChain_cons_cons.mp hchain).1
    -- after two steps a run has ended
    have hended : ∀ b c d : Status, CanBecome .pending b → b.CanBecome c → ¬ c.CanBecome d := by
      intro b c d
      cases b <;> cases c <;> cases d <;> decide
    exact absurd hcd (hended b c d hab hbc)

/-- Without repetitions, what stays or moves on only moves on. -/
theorem isChain_destutter' {α : Type} [DecidableEq α] {R : α → α → Prop} {a : α} {l : List α}
    (h : (a :: l).IsChain fun x y => x = y ∨ R x y) :
    ∃ rest, l.destutter' (· ≠ ·) a = a :: rest ∧ (a :: rest).IsChain R := by
  induction l generalizing a with
  | nil => exact ⟨[], rfl, .singleton a⟩
  | cons b l ih =>
    obtain ⟨hab, hl⟩ := List.isChain_cons_cons.mp h
    obtain ⟨rest, heq, hrest⟩ := ih hl
    rw [List.destutter'_cons]
    by_cases hne : a ≠ b
    · rw [if_pos hne, heq]
      exact ⟨b :: rest, rfl, .cons_cons (hab.resolve_left hne) hrest⟩
    · obtain rfl := not_not.mp hne
      rw [if_neg hne]
      exact ⟨rest, heq, hrest⟩

namespace Store

variable {s : Store}

/-- **The states of a run follow one of the courses.** -/
theorem Recorded.history_isCourse (h : s.Recorded) {calls : List Call} (hfresh : s.Admits calls)
    {id : String} (hnew : s.status? id = none) :
    ∃ course ∈ Status.courses, s.history id calls <+: course := by
  obtain ⟨hchain, hhead⟩ := h.statuses hfresh id
  unfold history
  cases hstatuses : s.statuses id calls with
  | nil => exact ⟨_, List.mem_cons_self, List.nil_prefix⟩
  | cons a rest =>
    rw [hstatuses] at hchain hhead
    have hpending : a = .pending := by
      rcases hhead a rfl with hsome | ⟨-, hpending⟩
      · rw [hnew] at hsome
        cases hsome
      · exact hpending
    obtain ⟨rest', heq, hrest'⟩ := isChain_destutter' hchain
    rw [List.destutter_cons', heq]
    refine Status.exists_course hrest' ?_
    rintro b hb
    cases hb
    exact hpending

/-- **Records are kept.** Whatever was asked of a new store, in whatever order, and whatever is
asked of it later: every record is still there, and is as it was if its run had ended; the states
of each run follow one of the courses; every record has the fields that go with its state; a call
changes a record only by moving its run on; and a call that is refused changes nothing at all. -/
theorem records_kept (earlier later : List Call) (hfresh : Admits {} (earlier ++ later)) :
    (after {} (earlier ++ later)).DistinctRuns ∧
    (∀ r ∈ (after {} earlier).executions, ∃ r' ∈ (after {} (earlier ++ later)).executions,
      r'.id = r.id ∧ (r.status.isTerminal = true → r' = r)) ∧
    (∀ id, ∃ course ∈ Status.courses, history {} id (earlier ++ later) <+: course) ∧
    (∀ r ∈ (after {} (earlier ++ later)).executions, r.Sound) ∧
    ∀ c : Call,
      (∀ r ∈ (after {} (earlier ++ later)).executions,
        ∃ r' ∈ (c.perform (after {} (earlier ++ later))).2.executions,
          r'.id = r.id ∧ (r' = r ∨ r.Moves r')) ∧
      ∀ e : StoreError, e.IsRefusal → (c.perform (after {} (earlier ++ later))).1 = some e →
        (c.perform (after {} (earlier ++ later))).2 = after {} (earlier ++ later) := by
  obtain ⟨hearlier, hlater⟩ := admits_append.mp hfresh
  have hend := recorded_empty.after hfresh
  refine ⟨hend.distinct, fun r hr => ?_, fun id => ?_, hend.sound, fun c => ⟨fun r hr => ?_, ?_⟩⟩
  · rw [after_append]
    exact (recorded_empty.after hearlier).exists_record hlater hr
  · exact recorded_empty.history_isCourse hfresh rfl
  · exact c.exists_record hend.distinct hr
  · intro e he hrefused
    exact Call.perform_of_refused hrefused he

/-- A run of the first report, from its record to its end. -/
def completedRun : List Call :=
  [.createExecution "run" ⟨1, 1, 1, [], .adHoc, none⟩ newYear, .markProcessing "run" newYear,
    .markCompleted "run" ⟨3, 20, false, none⟩ newYear]

/-- Its report is taken away, and it is said to have failed after all. -/
def afterthoughts : List Call :=
  [.deleteDefinition 1 1, .markFailed "run" "Too late" none firstMorning]

/-- The record of a run that completed outlives its report and a failure that comes too late. -/
theorem records_kept_completedRun :
    Admits {} (completedRun ++ afterthoughts) ∧
    ∀ r ∈ (after {} completedRun).executions,
      ∃ r' ∈ (after {} (completedRun ++ afterthoughts)).executions,
        r'.id = r.id ∧ (r.status.isTerminal = true → r' = r) := by
  have hfresh : Admits {} (completedRun ++ afterthoughts) :=
    ⟨fun r hr => absurd hr List.not_mem_nil, trivial, trivial, trivial, trivial, trivial⟩
  exact ⟨hfresh, (records_kept completedRun afterthoughts hfresh).2.1⟩

end Store

end TenantReports
