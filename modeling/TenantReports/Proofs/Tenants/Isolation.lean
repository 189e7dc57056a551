import TenantReports.Proofs.Tenants.Requests

/-!
# Tenants do not see each other

What a tenant asks changes no row of another tenant, and nothing another tenant does can be told
from the answer. Put as two runs: from two stores with the same rows of the tenant, a request comes
to the same answer and leaves the same rows of the tenant, apart from new ids and times.

Ids of rows are looked for with the tenant in all requests but one. A run moves its record on by
the id alone, so the id that it is given may not be in the store.

## Main definitions

* `Request.tenant`: whose request it is
* `Reports.respond`: the answer to a request, and the world after it
* `Host.InStep`: times of two worlds that a request cannot tell apart
* `Host.pairing`: the ids and times of two worlds that stand for each other

## Main results

* `Reports.pair_operation`: a request in two worlds
* `Reports.isolated_respond`: a tenant apart from the others
-/

namespace TenantReports

open Process (Pair)
open Time (Instant)

/-! ## Answers -/

namespace Request

/-- The tenant that asks. -/
def tenant : Request → Int
  | .save tenant _ _ | .update tenant _ _ | .clone tenant _ _ _ | .delete tenant _
  | .get tenant _ | .list tenant _ | .setDefault tenant _ | .toggleFavorite tenant _
  | .analyze tenant _ | .test tenant _ | .executions tenant _ _ | .createSchedule tenant _ _ _
  | .updateSchedule tenant _ _ | .deactivateSchedule tenant _ | .deleteSchedule tenant _
  | .listSchedules tenant _ => tenant
  | .run _ request => request.tenant

/-- Answers that are the same apart from what is paired. What is only read is the same. -/
def Twin (m : Pairing) : (q : Request) → q.Answer → q.Answer → Prop
  | .save .. | .update .. | .clone .. => Definition.Twin m
  | .run .. => RunOutcome.Twin m
  | .createSchedule .. | .updateSchedule .. => Schedule.Twin m
  | .delete .. | .get .. | .list .. | .setDefault .. | .toggleFavorite .. | .analyze ..
  | .test .. | .executions .. | .deactivateSchedule .. | .deleteSchedule ..
  | .listSchedules .. => Eq

/-- The recurrence of a schedule that is made or changed. -/
def recurrence? : Request → Option Recurrence
  | .createSchedule _ _ _ spec | .updateSchedule _ _ spec => some spec.recurrence
  | _ => none

end Request

namespace Reports

variable {δ : Type} (r : Reports δ)

/-- The answer to a request that nothing else interrupts, and the world after it. -/
def respond (q : Request) (w : World δ) : Except ReportError q.Answer × World δ :=
  World.perform (r.operation q) w

/-- It is the world that a request leaves behind. -/
theorem respond_snd (q : Request) (w : World δ) : (r.respond q w).2 = r.handle q w := by
  unfold handle
  cases q <;> exact (Process.run_forget _ w).symm

end Reports

/-! ## Two worlds -/

/-- The same time, or times with years of four digits. -/
def Time.Instant.Comparable (a b : Instant) : Prop := a = b ∨ a.Plain ∧ b.Plain

/-- A request finds no difference between the times of two worlds but the times themselves: they
are written alike, and a recurrence that it asks for has a next run from both or from neither. -/
structure Host.InStep {δ : Type} (h : Host δ) (q : Request) (w w' : World δ) : Prop where
  readings : ∀ n, (h.clock (w.readings + n)).Comparable (h.clock (w'.readings + n))
  next : ∀ rec ∈ q.recurrence?, Except.Rel Eq Instant.Comparable
    (rec.next (h.clock w.readings)) (rec.next (h.clock w'.readings))

/-- The times that a request comes across in two worlds. -/
inductive Host.Times {δ : Type} (h : Host δ) (q : Request) (w w' : World δ) :
    Instant → Instant → Prop
  | reading (n : Nat) : Times h q w w' (h.clock (w.readings + n)) (h.clock (w'.readings + n))
  | next {rec : Recurrence} {a b : Instant} (hrec : rec ∈ q.recurrence?)
      (ha : rec.next (h.clock w.readings) = .ok a)
      (hb : rec.next (h.clock w'.readings) = .ok b) : Times h q w w' a b

/-- What stands for each other in two worlds: the ids given next, and the times. All other ids
stand for themselves. -/
def Host.pairing {δ : Type} (h : Host δ) (q : Request) (w w' : World δ) : Pairing where
  report a b := a = b ∨ a = w.store.lastDefinition + 1 ∧ b = w'.store.lastDefinition + 1
  schedule a b := a = b ∨ a = w.store.lastSchedule + 1 ∧ b = w'.store.lastSchedule + 1
  execution a b := a = b ∨ a = h.executionId w.issued ∧ b = h.executionId w'.issued
  time := h.Times q w w'

section Pairing

variable {δ : Type} {h : Host δ} {q : Request} {w w' : World δ}

theorem Host.keepsIds_pairing : (h.pairing q w w').KeepsIds :=
  ⟨fun _ => .inl rfl, fun _ => .inl rfl, fun _ => .inl rfl⟩

/-- A world is in step with itself. -/
theorem Host.InStep.refl (w : World δ) : h.InStep q w w :=
  ⟨fun _ => .inl rfl, fun _ _ => .refl (fun _ => rfl) (fun _ => .inl rfl) _⟩

theorem Host.InStep.readable (hstep : h.InStep q w w') : (h.pairing q w w').Readable := by
  intro a b hab
  cases hab with
  | reading n => exact hstep.readings n
  | next hrec ha hb =>
    have hnext := hstep.next _ hrec
    rw [ha, hb] at hnext
    cases hnext with
    | ok hcomparable => exact hcomparable

/-- A next run is found in both worlds or in neither. -/
theorem Host.InStep.rel_next (hstep : h.InStep q w w') {rec : Recurrence}
    (hrec : rec ∈ q.recurrence?) :
    Except.Rel Eq (h.pairing q w w').time (rec.next (h.clock w.readings))
      (rec.next (h.clock w'.readings)) := by
  have hnext := hstep.next rec hrec
  rcases ha : rec.next (h.clock w.readings) with e | a
  all_goals
    rcases hb : rec.next (h.clock w'.readings) with e' | b
    all_goals rw [ha, hb] at hnext
  · cases hnext with
    | error he => exact .error he
  · cases hnext
  · cases hnext
  · exact .ok (.next hrec ha hb)

end Pairing

/-! ## Tenants -/

namespace Reports

variable {δ : Type} {r : Reports δ}

/-- **A request in two worlds** with the same rows of its tenant ends alike. -/
theorem pair_operation {m : Pairing} {u u' : World δ} (q : Request)
    (h : r.Begin m q.tenant u u')
    (hnext : ∀ rec ∈ q.recurrence?, Except.Rel Eq m.time
      (rec.next (r.engine.host.clock u.readings)) (rec.next (r.engine.host.clock u'.readings))) :
    Pair (r.operation q).run (r.operation q).run u u'
      (Isolated m q.tenant (ReportError.Twin m) (q.Twin m) u u') := by
  cases q with
  | save tenant user draft => exact pair_save h user draft
  | update tenant report draft => exact pair_update h draft
  | clone tenant user report name => exact pair_clone h user name
  | delete tenant report => exact pair_delete h
  | get tenant report =>
    refine (pair_get h.own).mono ?_
    rintro answer _ _ _ ⟨rfl, -, rfl, rfl⟩
    exact ⟨.refl .same (fun _ => rfl) _, .refl h.ids h.own⟩
  | list tenant user => exact h.eq_of_within (Store.within_listDefinitions tenant user)
  | setDefault tenant report =>
    exact pair_get_bind h.own (fun _ => h.refused _) fun _ _ _ =>
      h.eq_of_within (Store.within_setDefault tenant report)
  | toggleFavorite tenant report =>
    exact pair_get_bind h.own (fun _ => h.refused _) fun _ _ _ =>
      h.eq_of_within (Store.within_toggleFavorite tenant report)
  | analyze tenant report => exact pair_analyze h
  | test tenant draft => exact pair_test h draft
  | run report request => exact pair_run h request rfl
  | executions tenant report limit =>
    exact h.eq_of_within (Store.within_listExecutions tenant report limit)
  | createSchedule tenant user report spec =>
    exact pair_createSchedule h user spec (hnext spec.recurrence rfl)
  | updateSchedule tenant id spec =>
    exact pair_updateSchedule h id spec (hnext spec.recurrence rfl)
  | deactivateSchedule tenant id => exact pair_deactivateSchedule h id
  | deleteSchedule tenant id => exact pair_deleteSchedule h id
  | listSchedules tenant report => exact pair_listSchedules h report

/-- The worlds that complete operations reach from an empty store. -/
def Reachable (r : Reports δ) (w : World δ) : Prop :=
  ∃ w₀ : World δ, w₀.store = {} ∧ Relation.ReflTransGen r.Operation w₀ w

theorem Reachable.settled (hchannel : r.scheduler.channel.Confined) {w : World δ}
    (h : r.Reachable w) : w.store.Settled r.engine.limits.maxActiveSchedules := by
  obtain ⟨w₀, hempty, hoperations⟩ := h
  induction hoperations with
  | refl =>
    rw [hempty]
    exact Store.settled_empty
  | tail _ hop ih => exact settled_operation hchannel ih hop

/-- The id that the next run is given is not in the store. -/
def Fresh (r : Reports δ) (w : World δ) : Prop :=
  ∀ row ∈ w.store.executions, row.id ≠ r.engine.host.executionId w.issued

/-- **Tenants do not see each other.** In every world that operations can reach, a request of a
tenant leaves all rows of other tenants as they are. And in two such worlds with the same rows of
the tenant and the same data it comes to the same answer and leaves the same rows of the tenant,
apart from the ids that are given next and the times of the clock. -/
theorem isolated_respond (hchannel : r.scheduler.channel.Confined) {w : World δ}
    (hw : r.Reachable w) (hfresh : r.Fresh w) (q : Request) :
    (r.handle q w).store.others q.tenant = w.store.others q.tenant ∧
      ∀ w' : World δ, r.Reachable w' → r.Fresh w' →
        w.store.own q.tenant = w'.store.own q.tenant → w.data = w'.data →
        r.engine.host.InStep q w w' →
        let m := r.engine.host.pairing q w w'
        Except.Rel (ReportError.Twin m) (q.Twin m) (r.respond q w).1 (r.respond q w').1 ∧
          Store.Twin m ((r.respond q w).2.store.own q.tenant)
            ((r.respond q w').2.store.own q.tenant) := by
  have hpair : ∀ w' : World δ, r.Reachable w' → r.Fresh w' →
      w.store.own q.tenant = w'.store.own q.tenant → w.data = w'.data →
      r.engine.host.InStep q w w' →
      Isolated (r.engine.host.pairing q w w') q.tenant
        (ReportError.Twin (r.engine.host.pairing q w w'))
        (q.Twin (r.engine.host.pairing q w w')) w w' (r.respond q w).1 (r.respond q w').1
        (r.respond q w).2 (r.respond q w').2 := by
    intro w' hw' hfresh' hown hdata hstep
    refine pair_operation q ?_ fun rec hrec => hstep.rel_next hrec
    exact {
      own := hown
      data := hdata
      settled := hw.settled hchannel
      settled' := hw'.settled hchannel
      fresh := hfresh
      fresh' := hfresh'
      ids := Host.keepsIds_pairing
      readable := hstep.readable
      time := .reading
      report := .inr ⟨rfl, rfl⟩
      schedule := .inr ⟨rfl, rfl⟩
      execution := .inr ⟨rfl, rfl⟩ }
  constructor
  · -- the world beside itself
    rw [← respond_snd]
    exact (hpair w hw hfresh rfl rfl (.refl w)).2.others
  · intro w' hw' hfresh' hown hdata hstep
    obtain ⟨hanswer, hrows⟩ := hpair w' hw' hfresh' hown hdata hstep
    exact ⟨hanswer, hrows.rows⟩

/-- Another tenant of the shop saves a report. -/
def withNeighbour : World Unit :=
  shopReports.handle (.save 2 1 (salesReportDraft "sales")) withReport

theorem reachable_withReport : shopReports.Reachable withReport :=
  ⟨{ data := () }, rfl, .single (.request _)⟩

theorem reachable_withNeighbour : shopReports.Reachable withNeighbour :=
  ⟨{ data := () }, rfl, .tail (.single (.request _)) (.request _)⟩

theorem store_withNeighbour : withNeighbour.store = { withReport.store with
    definitions := withReport.store.definitions
      ++ [.ofDefinition { salesReport 2 (some "sales") with tenant := 2 }]
    lastDefinition := 2 } := by
  rw [withNeighbour, handle_save (build_salesReportDraft (.inl rfl)), Store.insertDefinition_snd,
    store_withReport]
  rfl

/-- A report is copied, without and with a neighbour. The copies have the ids 2 and 3. -/
theorem isolated_respond_withNeighbour :
    withReport.store.own 1 = withNeighbour.store.own 1 ∧
      let q : Request := .clone 1 1 1 none
      let m := shopReports.engine.host.pairing q withReport withNeighbour
      (shopReports.handle q withReport).store.others 1 = withReport.store.others 1 ∧
        Except.Rel (ReportError.Twin m) (q.Twin m) (shopReports.respond q withReport).1
          (shopReports.respond q withNeighbour).1 ∧
        Store.Twin m ((shopReports.respond q withReport).2.store.own 1)
          ((shopReports.respond q withNeighbour).2.store.own 1) := by
  have hown : withReport.store.own 1 = withNeighbour.store.own 1 := by
    rw [store_withNeighbour, Store.own, Store.own, Store.rowsOf, Store.rowsOf,
      Store.filter_concat_of_neg (by decide)]
  have hfresh : shopReports.Fresh withReport := by
    rw [Fresh, store_withReport]
    exact fun _ hrow => absurd hrow List.not_mem_nil
  have hfresh' : shopReports.Fresh withNeighbour := by
    rw [Fresh, store_withNeighbour, store_withReport]
    exact fun _ hrow => absurd hrow List.not_mem_nil
  -- the clock of the shop stands still
  have hstep : shopReports.engine.host.InStep (.clone 1 1 1 none) withReport withNeighbour :=
    ⟨fun _ => .inl rfl, by rintro _ ⟨⟩⟩
  obtain ⟨hothers, halike⟩ := isolated_respond Channel.log_confined reachable_withReport hfresh
    (.clone 1 1 1 none)
  exact ⟨hown, hothers, halike withNeighbour reachable_withNeighbour hfresh' hown rfl hstep⟩

end Reports

end TenantReports
