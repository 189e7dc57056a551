import TenantReports.Proofs.Run.Steps
import TenantReports.Proofs.Scheduling.Steps
import TenantReports.Proofs.Store.Coherence
import TenantReports.Proofs.Store.Texts

/-!
# Scheduling keeps the store coherent

An operation on a schedule reads it, writes it and then refreshes the mark of its report, so
between its steps one report is owed a refresh. A client's operation runs alone. The runs of a
sweep share the store: each may stop its schedule, and between that and the refresh the others
take steps of their own. The note of a run is the report that it owes a refresh.

## Main definitions

* `Scheduler.Sweeps`: a sweep whose runs take their steps in any order
* `Scheduler.Sweeping`: the store during a sweep, and the notes of its runs

## Main results

* `Scheduler.settled_create`, `Scheduler.settled_update`, `Scheduler.settled_deactivate`,
  `Scheduler.settled_delete`: the operations of clients
* `Scheduler.settled_sweep`, `Scheduler.settled_recover`: sweeps and recoveries
* `Scheduler.interleaved_sequence`, `Scheduler.interleaved_meanwhile`: one process after the other,
  and one that waits for the others, are orders of their steps
-/

namespace TenantReports.Scheduler

open Process (Each Interleaved Maintains)
open Store (CoherentExcept Settled)
open Time (Instant)
open World (Leaves Storewise leaves_always_bind leaves_bind leaves_orFail_bind)

variable {δ : Type} {sch : Scheduler δ} {w w' : World δ} {cap : Nat} {tenant id : Int}

/-! ## Operations of clients -/

/-- What follows from a schedule that was read. -/
theorem leaves_get_bind {α : Type} {P : World δ → Prop} {f : Schedule → Op δ α} (herror : P w)
    (hok : ∀ s, w.store.getSchedule tenant id = .ok (some s) → Leaves (f s) w P) :
    Leaves (get tenant id >>= f) w P := by
  refine leaves_bind (fun e _ => ?_) fun s hs => ?_
  · rw [run_get]
    exact herror
  · rw [run_get]
    exact hok s (get_eq_ok hs)

/-- What follows from a result that is there already. -/
theorem leaves_ofExcept_bind {α β : Type} {P : World δ → Prop} {r : Except ScheduleError α}
    {f : α → Op δ β} (herror : P w) (hok : ∀ a, r = .ok a → Leaves (f a) w P) :
    Leaves (ofExcept r >>= f) w P :=
  leaves_bind (fun _ _ => herror) fun a ha => hok a ha

/-- The refresh that a report is owed, at the end of an operation. -/
theorem leaves_refresh {report : Int}
    (h : w.store.CoherentExcept cap fun k => False ∨ k = (tenant, report)) :
    Leaves (World.always (refreshScheduled tenant report) : Op δ Unit) w (·.store.Settled cap) := by
  unfold Leaves refreshScheduled
  rw [World.run_always, World.run_onStore]
  exact Store.settled_refreshScheduled h

theorem settled_create {d : Definition} (user : Int) (spec : ScheduleSpec) (now : Instant)
    (h : w.store.Settled sch.engine.limits.maxActiveSchedules)
    (hd : ∃ row ∈ w.store.definitions, row.tenant = d.tenant ∧ row.id = d.id) :
    Leaves (sch.create d user spec now) w
      (·.store.Settled sch.engine.limits.maxActiveSchedules) := by
  unfold create nextRun
  refine leaves_ofExcept_bind h fun _ _ => ?_
  refine leaves_ofExcept_bind h fun next _ => ?_
  -- where nothing was saved, the store is as it was
  refine leaves_orFail_bind (fun e he => ?_) fun saved hsaved => ?_
  · rw [World.run_onStore] at he ⊢
    dsimp only at he ⊢
    rw [Store.insertScheduleWithinCap_of_not_saved fun saved => by simp [he]]
    exact h
  rw [World.run_onStore] at hsaved ⊢
  dsimp only at hsaved ⊢
  cases saved with
  | none =>
    change Settled _ _
    rw [Store.insertScheduleWithinCap_of_not_saved fun saved => by simp [hsaved]]
    exact h
  | some s =>
    exact leaves_always_bind (Store.settled_refreshScheduled (h.insertScheduleWithinCap hd))

/-- A schedule keeps its report and stays as active as it was. -/
theorem settled_update (spec : ScheduleSpec) (now : Instant) (h : w.store.Settled cap) :
    Leaves (sch.update tenant id spec now) w (·.store.Settled cap) := by
  unfold update nextRun
  refine leaves_ofExcept_bind h fun _ _ => ?_
  refine leaves_get_bind h fun s hs => ?_
  refine leaves_ofExcept_bind h fun next _ => ?_
  unfold Leaves
  rw [World.run_orFail, World.run_onStoreNow]
  exact h.updateSchedule (s.withSpec spec next) hs rfl rfl _

theorem settled_deactivate (h : w.store.Settled cap) :
    Leaves (sch.deactivate tenant id) w (·.store.Settled cap) := by
  unfold deactivate
  refine leaves_get_bind h fun s hs => ?_
  refine leaves_orFail_bind (fun e he => ?_) fun _ _ => ?_
  · rw [World.run_onStoreNow] at he ⊢
    dsimp only
    rw [Store.setScheduleActive_of_error he]
    exact h
  · rw [World.run_onStoreNow]
    exact leaves_refresh (h.stopSchedule (Store.ties_of_getSchedule h.numbered hs) _)

theorem settled_delete (h : w.store.Settled cap) :
    Leaves (delete tenant id : Op δ Unit) w (·.store.Settled cap) := by
  unfold delete
  refine leaves_get_bind h fun s hs => ?_
  refine leaves_always_bind ?_
  rw [World.run_onStore]
  exact leaves_refresh (h.deleteSchedule (Store.ties_of_getSchedule h.numbered hs))

/-! ## Runs of a sweep -/

/-- The store during a sweep of the schedules `found`: the notes of the runs name the reports that
are owed a refresh, and the schedules still belong to the reports that were read. -/
structure Sweeping (cap : Nat) (found : List Schedule) (notes : Multiset (Option (Int × Int)))
    (w : World δ) : Prop where
  coherent : w.store.CoherentExcept cap fun k => some k ∈ notes
  ties : ∀ s ∈ found, w.store.Ties s.tenant s.id s.report

section Sweeping

variable {found : List Schedule} {s : Schedule}

/-- A process that leaves the marks alone owes nothing. -/
theorem maintains_of_each {α : Type} {p : Process (World δ) α}
    (hp : p.Each (Storewise (Store.Agree DefinitionRow.mark ScheduleRow.mark))) :
    Maintains (Sweeping cap found) (fun _ g => g = none) none p :=
  hp.maintains (fun hagree hw =>
    ⟨hw.coherent.of_agree hagree, fun s hs => (hw.ties s hs).of_agree hagree⟩) none

/-- The refresh of a report that is owed one. -/
theorem maintains_refresh (tenant report : Int) :
    Maintains (Sweeping cap found : _ → World δ → Prop) (fun _ g => g = none) (some (tenant, report))
      (refreshScheduled tenant report) := by
  refine Process.maintains_atomically fun others w hw => ⟨none, ⟨?_, hw.ties⟩, rfl⟩
  refine (hw.coherent.refreshScheduled tenant report).mono fun k hk => ?_
  obtain ⟨howed, hne⟩ := hk
  rcases Multiset.mem_cons.mp howed with heq | hmem
  · cases heq
    exact absurd rfl hne
  · exact Multiset.mem_cons_of_mem hmem

/-- A schedule is stopped: from then on its report is owed a refresh. -/
theorem maintains_stop (host : Host δ) (hs : s ∈ found) :
    Maintains (Sweeping cap found)
      (fun answer g => g = match answer with
        | .ok () => some (s.tenant, s.report)
        | .error _ => none) none
      (World.onStoreNow host fun now store => store.setScheduleActive s.tenant s.id false now) := by
  refine Process.maintains_atomically fun others w hw => ⟨_, ⟨?_, fun s' hs' => ?_⟩, rfl⟩
  · have hstopped := hw.coherent.stopSchedule (hw.ties s hs) (w.now host).1
    dsimp only
    cases hanswer : (w.store.setScheduleActive s.tenant s.id false (w.now host).1).1 with
    | error e =>
      rw [show (w.now host).2.store = w.store from rfl, hanswer,
        Store.setScheduleActive_of_error hanswer]
      exact hw.coherent
    | ok _ =>
      rw [show (w.now host).2.store = w.store from rfl, hanswer]
      refine hstopped.mono fun k hk => ?_
      rcases hk with howed | rfl
      · rw [Multiset.mem_cons] at howed ⊢
        exact .inr (howed.resolve_left (Option.some_ne_none k))
      · exact Multiset.mem_cons_self _ _
  · dsimp only
    rw [Store.setScheduleActive_snd]
    exact (hw.ties s' hs').mapSchedules _ fun _ => ⟨rfl, rfl, rfl⟩

/-- **Moving a schedule on keeps the store coherent**, also where the schedule is stopped. -/
theorem maintains_advance (sch : Scheduler δ) (hs : s ∈ found) (now : Instant) :
    Maintains (Sweeping cap found) (fun _ g => g = none) none (sch.advance s now) := by
  unfold advance
  cases s.recurrence.next now with
  | ok next =>
    refine (maintains_of_each ?_).bind fun _ g hg => hg
    refine World.each_onStoreNow fun at_ store => ?_
    rw [Store.reschedule_snd]
    exact Store.agree_mapSchedules store fun _ _ _ => rfl
  | error e =>
    refine (maintains_stop sch.engine.host hs).bind fun answer g hg => ?_
    cases answer with
    | error e => exact hg
    | ok _ =>
      rw [hg]
      exact maintains_refresh s.tenant s.report

/-- What a run and its delivery do to the store the marks do not show. -/
theorem each_runAndDeliver (hchannel : sch.channel.Confined) (s : Schedule) (d : Definition) :
    (sch.runAndDeliver s d).Each (Storewise Store.Ran) := by
  unfold runAndDeliver
  refine (sch.engine.each_execute d _).bind fun result => ?_
  cases result with
  | error failure => trivial
  | ok outcome =>
    refine (World.each_elsewhere Store.Agree.refl ?_).bind fun _ => trivial
    exact hchannel _

/-- **The run of a schedule keeps the store coherent**, whatever else goes on. -/
theorem maintains_runSchedule (hchannel : sch.channel.Confined) (hs : s ∈ found) (now : Instant) :
    Maintains (Sweeping cap found) (fun _ g => g = none) none (sch.runSchedule now s) := by
  have hfinish : ∀ ok : Bool, Maintains (Sweeping cap found) (fun _ g => g = none) none
      (do sch.advance s now; return ok) := fun ok =>
    (maintains_advance sch hs now).bind fun _ _ hg => hg
  unfold runSchedule
  refine (maintains_of_each (World.each_ofStore Store.Agree.refl)).bind fun answer g hg => ?_
  subst hg
  rcases answer with e | _ | d
  · exact hfinish false
  · exact hfinish false
  have hrun := (each_runAndDeliver hchannel s d).mono fun w w' h =>
    Store.Agree.comp h DefinitionRow.mark ScheduleRow.mark
  refine (maintains_of_each hrun).bind fun result g hg => ?_
  subst hg
  refine (maintains_of_each (World.each_onStoreNow fun at_ store => ?_)).bind fun _ g hg => ?_
  · rw [Store.markScheduleRun_snd]
    exact Store.agree_mapSchedules store fun _ _ _ => rfl
  subst hg
  exact hfinish result.2

/-! ## Sweeps and recoveries -/

/-- Processes that owe nothing at their ends, one after the other. -/
theorem maintains_sequence {α : Type} {ps : List (Process (World δ) α)}
    (hps : ∀ p ∈ ps, Maintains (Sweeping cap found) (fun _ g => g = none) none p) :
    Maintains (Sweeping cap found) (fun _ g => g = none) none (sequence ps) := by
  induction ps with
  | nil => exact rfl
  | cons p ps ih =>
    refine (hps p List.mem_cons_self).bind fun _ g hg => ?_
    subst hg
    refine (ih fun p' hp' => hps p' (List.mem_cons_of_mem p hp')).bind fun _ g hg => hg

/-- A sweep begins: nothing is owed yet, and all schedules were just read. -/
theorem sweeping_start {notes : Multiset (Option (Int × Int))} (h : w.store.Settled cap)
    (hfound : ∀ s ∈ found, ∃ row ∈ w.store.schedules, row.read? = some s) :
    Sweeping cap found notes w where
  coherent := h.mono fun _ hfalse => hfalse.elim
  ties := by
    intro s hs
    obtain ⟨row, hrow, hread⟩ := hfound s hs
    exact Store.ties_of_read h.numbered hrow hread

/-- A sweep ends: nothing is owed any more. -/
theorem Sweeping.settled {notes : Multiset (Option (Int × Int))} (h : Sweeping cap found notes w)
    (hnotes : ∀ g ∈ notes, g = none) : w.store.Settled cap :=
  h.coherent.mono fun k hk => Option.some_ne_none k (hnotes _ hk)

end Sweeping

/-- What a sweep can make of a world. Where the schedules that are due cannot be read, it is
nothing. Otherwise each of them is run, and the runs take their steps in any order. -/
inductive Sweeps (sch : Scheduler δ) (now : Instant) (w : World δ) : World δ → Prop
  | unreadable {e : StoreError} (hdue : w.store.dueSchedules now = .error e) : Sweeps sch now w w
  | swept {found : List Schedule} {ps : List (Process (World δ) Bool)} {w' : World δ}
      (hdue : w.store.dueSchedules now = .ok found)
      (hruns : Interleaved (found.map (sch.runSchedule now)) w ps w')
      (hended : ∀ p ∈ ps, p.Ended) : Sweeps sch now w w'

/-- **A sweep keeps the store coherent**, in whatever order its runs take their steps. -/
theorem settled_sweep (hchannel : sch.channel.Confined) {now : Instant} (h : w.store.Settled cap)
    (hsweep : sch.Sweeps now w w') : w'.store.Settled cap := by
  cases hsweep with
  | unreadable _ => exact h
  | @swept found ps w' hdue hruns hended =>
    let notes : List (Option (Int × Int)) := found.map fun _ => none
    have hstart : Sweeping cap found notes w := sweeping_start h fun s hs => by
      obtain ⟨row, hrow, -, hread⟩ := Store.row_of_mem_dueSchedules hdue hs
      exact ⟨row, hrow, hread⟩
    have hmaintains : List.Forall₂ (Maintains (Sweeping cap found) fun _ g => g = none) notes
        (found.map (sch.runSchedule now)) := by
      rw [List.forall₂_map_left_iff, List.forall₂_map_right_iff, List.forall₂_same]
      exact fun s hs => maintains_runSchedule hchannel hs now
    obtain ⟨notes', hnotes', hend⟩ := hruns.maintains hmaintains hstart
    refine hend.settled fun g hg => ?_
    obtain ⟨-, hnone⟩ := Process.exists_post_of_ended hnotes' hended g hg
    exact hnone

/-- Processes one after the other are a pool of them, in one order of its steps. -/
theorem interleaved_sequence {α : Type} (before ps : List (Process (World δ) α)) (w : World δ) :
    Interleaved (before ++ ps) w (before ++ ((sequence ps).run w).1.map .done)
      ((sequence ps).run w).2 := by
  induction ps generalizing before w with
  | nil => exact .refl _ _
  | cons p ps ih =>
    have hrest := ih (before ++ [.done (p.run w).1]) (p.run w).2
    have hrun : (sequence (p :: ps)).run w = ((p.run w).1 :: ((sequence ps).run (p.run w).2).1,
        ((sequence ps).run (p.run w).2).2) := by
      rw [sequence, Process.run_bind, Process.run_bind, Process.run_pure]
    rw [hrun]
    refine (Process.interleaved_run before ps p w).trans ?_
    simpa using hrest

/-- One process waits after its first step, and the others take all of theirs. -/
theorem interleaved_meanwhile {α : Type} (p : Process (World δ) α)
    (ps : List (Process (World δ) α)) (w : World δ) :
    let begun := p.afterStep w
    let others := (sequence ps).run begun.2
    let last := begun.1.run others.2
    Interleaved (p :: ps) w ((last.1 :: others.1).map .done) last.2 := by
  intro begun others last
  have hbegun : Interleaved (p :: ps) w (begun.1 :: ps) begun.2 :=
    Process.interleaved_afterStep [] ps p w
  have hothers : Interleaved (begun.1 :: ps) begun.2 (begun.1 :: others.1.map .done) others.2 :=
    interleaved_sequence [begun.1] ps begun.2
  have hlast : Interleaved (begun.1 :: others.1.map .done) others.2
      (.done last.1 :: others.1.map .done) last.2 :=
    Process.interleaved_run [] (others.1.map .done) begun.1 others.2
  exact hbegun.trans (hothers.trans hlast)

theorem settled_recover (now : Instant) (h : w.store.Settled cap) :
    Leaves (sch.recover now) w (·.store.Settled cap) := by
  unfold recover
  refine leaves_orFail_bind (fun _ _ => h) fun stale hstale => ?_
  refine leaves_always_bind ?_
  have hadvance : Maintains (Sweeping cap stale) (fun _ g => g = none) none
      (sequence (stale.map fun s => sch.advance s now)) := by
    refine maintains_sequence fun p hp => ?_
    obtain ⟨s, hs, rfl⟩ := List.mem_map.mp hp
    exact maintains_advance sch hs now
  have hstart : Sweeping cap stale {none} w := sweeping_start h fun s hs => by
    obtain ⟨row, hrow, -, hread⟩ := Store.row_of_mem_staleSchedules hstale hs
    exact ⟨row, hrow, hread⟩
  obtain ⟨g, hend, rfl⟩ := hadvance.run hstart
  exact hend.settled fun g hg => Multiset.mem_singleton.mp hg

/-! ## A shop with a daily report -/

/-- A host whose clock stands still and whose database is empty. -/
def quietHost : Host Unit where
  dialect := .sqlite
  query _ data := (.ok [], data)
  clock _ := newYear
  executionId n := toString n

/-- The quiet host numbers its ids, and a number is known by its digits. -/
theorem executionId_injective : Function.Injective quietHost.executionId := by
  intro n m h
  have hdigits : Nat.toDigits 10 n = Nat.toDigits 10 m := by
    rw [← String.toList_ofList (l := Nat.toDigits 10 n),
      ← String.toList_ofList (l := Nat.toDigits 10 m)]
    exact congrArg String.toList h
  rw [← Nat.ofDigitChars_toDigits (b := 10) (n := n) (by decide) (by decide), hdigits,
    Nat.ofDigitChars_toDigits (by decide) (by decide)]

/-- Reports of the shop, with one active schedule for each tenant. -/
def shopScheduler : Scheduler Unit where
  engine := { host := quietHost, catalog := shop, limits := { maxActiveSchedules := 1 } }

/-- The first report, every day at eight. -/
def everyMorning : Schedule :=
  { Schedule.new 1 1 1 dailyAtEight firstMorning newYear with id := 1 }

/-- Two reports, the first of which is scheduled. -/
def office : World Unit where
  store := {
    definitions := [.ofDefinition { salesReport 1 none with scheduled := true },
      .ofDefinition (salesReport 2 none)]
    schedules := [.ofSchedule everyMorning]
    lastDefinition := 2
    lastSchedule := 1 }
  data := ()

/-- Every day at seven. -/
def dailyAtSeven : ScheduleSpec := { recurrence := .daily "07:00", exportAs := .csv }

/-- Seven o'clock on the second day of 2024. -/
def secondSeven : Instant := ⟨1704178800, 0⟩

/-- The first report, moved to seven on the first morning. -/
def everyMorningAtSeven : Schedule :=
  { everyMorning.withSpec dailyAtSeven secondSeven with updatedAt := newYear }

theorem everyMorning_legible : everyMorning.Legible :=
  ⟨trivial, FilterValues.ofText?_nil, firstMorning_legible, by simp [everyMorning, Schedule.new],
    newYear_legible, newYear_legible⟩

theorem secondSeven_legible : secondSeven.Legible := by
  rw [Instant.Legible, Time.rfc3339Micros, Time.parseRfc3339?, String.toList_ofList]
  rfl

theorem everyMorningAtSeven_legible : everyMorningAtSeven.Legible :=
  ⟨trivial, FilterValues.ofText?_nil, secondSeven_legible,
    by simp [everyMorningAtSeven, everyMorning, Schedule.new, Schedule.withSpec], newYear_legible,
    newYear_legible⟩

theorem settled_office : office.store.Settled 1 where
  reports := ⟨by decide, by decide⟩
  numbered := ⟨by decide, by decide⟩
  attached := by
    intro r hr
    rw [List.mem_singleton.mp hr]
    exact ⟨_, List.mem_cons_self, rfl, rfl⟩
  marked := by
    intro d hd _
    rcases List.mem_cons.mp hd with rfl | hd
    · rfl
    · rw [List.mem_singleton.mp hd]
      rfl
  countActive_le tenant := List.countP_le_length

theorem getSchedule_office : office.store.getSchedule 1 1 = .ok (some everyMorning) :=
  Store.getSchedule_of_find rfl (ScheduleRow.read?_ofSchedule everyMorning_legible)

/-- The schedule is moved to seven. -/
def movedToSeven : World Unit :=
  shopScheduler.written (everyMorning.withSpec dailyAtSeven secondSeven) office

theorem schedules_movedToSeven :
    movedToSeven.store.schedules = [.ofSchedule everyMorningAtSeven] := rfl

theorem getSchedule_movedToSeven :
    movedToSeven.store.getSchedule 1 1 = .ok (some everyMorningAtSeven) := by
  refine Store.getSchedule_of_find ?_ (ScheduleRow.read?_ofSchedule everyMorningAtSeven_legible)
  rw [schedules_movedToSeven]
  rfl

theorem perform_update_office :
    World.perform (shopScheduler.update 1 1 dailyAtSeven firstMorning) office
      = (.ok everyMorningAtSeven, movedToSeven) := by
  have hnext : dailyAtSeven.recurrence.next firstMorning = .ok secondSeven := rfl
  have hsaved : (office.store.updateSchedule (everyMorning.withSpec dailyAtSeven secondSeven)
      newYear).1 = .ok everyMorningAtSeven :=
    Store.updateSchedule_eq_ok.mpr getSchedule_movedToSeven
  exact perform_update rfl getSchedule_office hnext hsaved

end TenantReports.Scheduler
