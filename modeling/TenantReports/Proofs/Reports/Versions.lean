import TenantReports.Proofs.Outcome
import TenantReports.Proofs.Process.Histories
import TenantReports.Proofs.Reports.Defaults
import TenantReports.Proofs.Reports.Saving
import TenantReports.Proofs.Reports.Steps
import TenantReports.Proofs.Store.Editions

/-!
# Versions of reports

A report has the digest of the layout that was written last, and its version tells how often an
update has changed that digest. This is so at any time, in whatever order many clients take the
steps of their requests: nothing but an update writes an edition, an update writes that of its own
report in one step, and it counts on from the version it finds then.

## Main definitions

* `Request.updates`: the updates of a report
* `Reports.Revises`: all that a step of a request does to the editions
* `Process.Event.changes`: an update has changed the digest of a report
* `Reports.Counted`: what the editions are, given the steps so far

## Main results

* `Reports.follows_answering`: the steps of a request
* `Reports.Counted.step`, `Reports.counted_of_history`: what each step and all steps preserve
* `Reports.versions_of_history`: what holds after any steps of any requests
-/

namespace TenantReports

open Process (Event Follows History Interleaved)
open Time (Instant)
open World (Storewise follows_op_bind follows_orFail)

/-! ## Steps -/

/-- The request is an update of this report. -/
def Request.updates (tenant id : Int) : Request → Bool
  | .update t i _ => t == tenant && i == id
  | _ => false

theorem Request.updates_iff {q : Request} {tenant id : Int} :
    q.updates tenant id = true ↔ ∃ draft, q = .update tenant id draft := by
  cases q with
  | update t i draft => simp [updates]
  | _ => simp [updates]

namespace Reports

variable {δ : Type}

/-- A row before and after a request that rewrites it: an update of this very report, to the layout
of its draft. -/
def Rewrites (r : Reports δ) (q : Request) (row row' : DefinitionRow) : Prop :=
  ∃ draft l, q = .update row.tenant row.id draft ∧ r.validator.build draft true = .ok l ∧
    row.Rewritten l row'

/-- All that a step of a request does to the editions of reports. The note says whether the request
has written one. -/
inductive Revises (r : Reports δ) (q : Request) (wrote : Bool) (s : Store) : Store → Bool → Prop
  | keeps {t : Store} (h : s.SameEditions t) : Revises r q wrote s t wrote
  | adds {d : Definition} (hq : ∀ tenant id, q.updates tenant id = false) (hnew : d.version = 1) :
    Revises r q wrote s (s.insertDefinition d).2 wrote
  | removes {tenant id : Int} (hq : q = .delete tenant id) :
    Revises r q wrote s (s.deleteDefinition tenant id).2 wrote
  | writes {tenant id : Int} {draft : Draft} {current d : Definition} {now : Instant}
      (hq : q = .update tenant id draft) (hbuild : r.validator.build draft true = .ok d.layout)
      (hcurrent : s.getDefinition tenant id = .ok (some current)) :
    Revises r q wrote s
      (s.changeDefinition tenant id (·.edited d (current.nextVersion d.layout) now)) true

/-- The same in a world. -/
def RevisesWorld (r : Reports δ) (q : Request) (wrote : Bool) (w w' : World δ) (wrote' : Bool) :
    Prop :=
  r.Revises q wrote w.store w'.store wrote'

/-- A request that has been answered: if it was an update that did not fail, it has written. -/
def Settled (q : Request) (wrote : Bool) (answered : Answered) : Prop :=
  answered.1 = q ∧
    ∀ tenant id draft d, answered = ⟨.update tenant id draft, .ok d⟩ → wrote = true

variable {r : Reports δ} {q : Request} {tenant id : Int}

/-- **A request other than an update writes no edition but the first one.** -/
theorem each_revises (r : Reports δ) (hq : ∀ tenant id, q.updates tenant id = false) :
    (r.operation q).run.Each (Storewise fun s t => ∀ wrote, r.Revises q wrote s t wrote) := by
  have hkeeps : ∀ {s t : Store}, s.SameEditions t → ∀ wrote, r.Revises q wrote s t wrote :=
    fun h _ => .keeps h
  have hran : ∀ {s t : Store}, s.Ran t → ∀ wrote, r.Revises q wrote s t wrote := fun h =>
    hkeeps (Store.Agree.comp h DefinitionRow.edition id).sameEditions
  have hrefl : ∀ (s : Store) wrote, r.Revises q wrote s s wrote := fun s => hkeeps (.refl s)
  have hreading : ∀ {α : Type} (f : Store → Except StoreError α),
      (onStore fun s => (f s, s) : Op δ α).run.Each
        (Storewise fun s t => ∀ wrote, r.Revises q wrote s t wrote) := fun f => each_onStore hrefl
  have hnow : (World.always r.now : Op δ Instant).run.Each
      (Storewise fun s t => ∀ wrote, r.Revises q wrote s t wrote) :=
    World.each_always (each_now hrefl r)
  -- requests for schedules write only marks, which an edition does not have
  have hmarks : Store.AllowsMarks fun s t => ∀ wrote, r.Revises q wrote s t wrote := by
    constructor
    · intro s t hdefinitions hlast
      exact hkeeps ⟨by rw [hdefinitions], hlast⟩
    · intro s tenant report
      have hagree : s.Agree DefinitionRow.edition id (s.refreshScheduled tenant report).2 :=
        s.agree_changeDefinition tenant report fun _ => rfl
      exact hkeeps hagree.sameEditions
  by_cases hschedules : q.WritesSchedules
  · exact each_writesSchedules hmarks hschedules
  unfold operation
  cases q with
  | save tenant user draft =>
    refine World.each_op_bind (each_build r draft true) fun layout => ?_
    refine World.each_op_bind hnow fun now => each_onStore fun s wrote => ?_
    exact .adds hq rfl
  | clone tenant user report name =>
    refine World.each_op_bind (each_get (fun w => hrefl w.store) tenant report) fun source => ?_
    refine World.each_op_bind hnow fun now => each_onStore fun s wrote => ?_
    exact .adds hq rfl
  | delete tenant report =>
    refine World.each_op_bind (World.each_always ?_) fun found => by split <;> trivial
    exact World.each_onStore fun s wrote => .removes rfl
  | get tenant report => exact each_get (fun w => hrefl w.store) tenant report
  | list tenant user => exact hreading _
  | setDefault tenant report =>
    refine World.each_op_bind (each_get (fun w => hrefl w.store) tenant report) fun _ => ?_
    refine each_onStore fun s => hkeeps ?_
    have hagree : s.Agree DefinitionRow.edition (fun _ : ScheduleRow => ())
        (s.setDefault tenant report).2 := s.agree_setDefault tenant report fun _ _ => rfl
    exact hagree.sameEditions
  | toggleFavorite tenant report =>
    refine World.each_op_bind (each_get (fun w => hrefl w.store) tenant report) fun _ => ?_
    refine each_onStore fun s => hkeeps ?_
    rw [Store.toggleFavorite_snd]
    have hagree : s.Agree DefinitionRow.edition (fun _ : ScheduleRow => ())
        (s.changeDefinition tenant report fun row => { row with favorite := !row.favorite }) :=
      s.agree_changeDefinition tenant report fun _ => rfl
    exact hagree.sameEditions
  | analyze tenant report =>
    exact World.each_op_bind (each_get (fun w => hrefl w.store) tenant report) fun _ => trivial
  | test tenant draft =>
    refine World.each_op_bind (each_build r draft false) fun layout => ?_
    refine World.each_always ((r.engine.each_preview layout tenant _).mono fun _ _ h => ?_)
    exact hran h
  | run report request =>
    refine World.each_op_bind (each_get (fun w => hrefl w.store) request.tenant report) fun d => ?_
    refine World.each_orFail ((r.engine.each_execute d request).mono fun _ _ h => ?_)
    exact hran h
  | executions tenant report limit => exact hreading _
  | listSchedules tenant report =>
    exact each_onSchedules (World.each_orFail (World.each_ofStore hrefl))
  | update tenant report draft =>
    have hself := hq tenant report
    simp [Request.updates] at hself
  | createSchedule | updateSchedule | deactivateSchedule | deleteSchedule =>
    exact absurd trivial hschedules

/-- Reading a report writes nothing, and what is read is that report. -/
theorem follows_get {report : Int} :
    Follows (r.RevisesWorld q) (fun wrote answer => wrote = false ∧
      ∀ d, answer = .ok d → d.tenant = tenant ∧ d.id = report) false
      (get tenant report : Op δ Definition).run := by
  unfold get onStore
  refine follows_op_bind (fun wrote answer => wrote = false ∧ ∀ found, answer = .ok (some found) →
    found.tenant = tenant ∧ found.id = report) ?_ ?_ ?_
  · refine follows_orFail (Process.follows_atomically fun w => ?_)
    refine ⟨false, .keeps (.refl w.store), rfl, fun found hfound => ?_⟩
    exact Store.isAt_of_getDefinition (Except.mapError_eq_ok.mp hfound)
  · rintro err wrote ⟨hwrote, -⟩
    exact ⟨hwrote, fun _ h => nomatch h⟩
  · rintro found wrote ⟨hwrote, hfound⟩
    cases found with
    | none => exact ⟨hwrote, fun _ h => nomatch h⟩
    | some d =>
      refine ⟨hwrote, fun d' hd' => ?_⟩
      rw [← Except.ok.inj hd']
      exact hfound d rfl

/-- **An update writes the edition of its report in one step**, and only then it does not fail. -/
theorem follows_update (r : Reports δ) (tenant report : Int) (draft : Draft) :
    Follows (r.RevisesWorld (.update tenant report draft))
      (fun wrote answer => ∀ d, answer = .ok d → wrote = true) false
      (r.update tenant report draft).run := by
  unfold update build
  refine follows_op_bind (fun wrote answer => wrote = false ∧ ∀ l, answer = .ok l →
    r.validator.build draft true = .ok l) ?_ ?_ ?_
  · exact follows_orFail (Process.follows_pure ⟨rfl, fun l hl => Except.mapError_eq_ok.mp hl⟩)
  · exact fun _ _ _ _ h => nomatch h
  rintro layout _ ⟨rfl, hbuild⟩
  refine follows_op_bind _ follows_get (fun _ _ _ _ h => nomatch h) ?_
  rintro d _ ⟨rfl, hd⟩
  -- of the report that was read only tenant and id matter here, since others may write meanwhile
  obtain ⟨rfl, rfl⟩ := hd d rfl
  refine follows_orFail (Process.follows_atomically fun w => ?_)
  -- the report as it is when it is written
  cases hneed : w.store.needDefinition d.tenant d.id with
  | error err =>
    have hstays : w.store.updateDefinition (changedReport d draft layout)
        (r.engine.host.clock w.readings) = (.error err, w.store) :=
      Store.updateDefinition_of_error (d := changedReport d draft layout) hneed _
    refine ⟨false, .keeps ?_, fun d' hd' => ?_⟩
    · change w.store.SameEditions (w.store.updateDefinition (changedReport d draft layout)
        (r.engine.host.clock w.readings)).2
      rw [hstays]
      exact .refl w.store
    · have hread : (w.store.updateDefinition (changedReport d draft layout)
          (r.engine.host.clock w.readings)).1 = .ok d' := Except.mapError_eq_ok.mp hd'
      rw [hstays] at hread
      cases hread
  | ok current =>
    have hcurrent := Store.needDefinition_eq_ok.mp hneed
    obtain ⟨row, -, -, -, hwrites⟩ := Store.updateDefinition_of_current
      (d := changedReport d draft layout) hcurrent (r.engine.host.clock w.readings)
    refine ⟨true, ?_, fun _ _ => rfl⟩
    change r.Revises _ false w.store (w.store.updateDefinition (changedReport d draft layout)
      (r.engine.host.clock w.readings)).2 true
    rw [hwrites]
    exact .writes rfl (hbuild layout rfl) hcurrent

/-- **What the steps of a request do.** -/
theorem follows_answering (r : Reports δ) (q : Request) :
    Follows (r.RevisesWorld q) (Settled q) false (r.answering q) := by
  unfold answering
  by_cases hq : ∃ tenant report draft, q = .update tenant report draft
  · obtain ⟨tenant, report, draft, rfl⟩ := hq
    refine (follows_update r tenant report draft).bind fun answer wrote hwrote => ⟨rfl, ?_⟩
    intro tenant' report' draft' d hanswered
    cases hanswered
    exact hwrote d rfl
  · have hother : ∀ tenant id, q.updates tenant id = false := by
      intro tenant id
      by_contra hupdates
      obtain ⟨draft, rfl⟩ := Request.updates_iff.mp (Bool.eq_true_of_not_eq_false hupdates)
      exact hq ⟨tenant, id, draft, rfl⟩
    refine ((each_revises r hother).follows fun _ _ h => h false).bind fun answer wrote _ => ?_
    refine ⟨rfl, fun tenant id draft d hanswered => absurd ?_ hq⟩
    exact ⟨tenant, id, draft, congrArg Sigma.fst hanswered⟩

end Reports

/-! ## Counting -/

section Counting

variable {δ : Type} {r : Reports δ} {q : Request} {tenant id : Int}

/-- In this step, an update of a report has changed its digest. -/
def Process.Event.changes (tenant id : Int) (e : Event Request (World δ)) : Bool :=
  e.label.updates tenant id &&
    e.after.store.digest? tenant id != e.before.store.digest? tenant id

/-- One step more. -/
theorem Process.Event.countP_changes_concat (past : List (Event Request (World δ)))
    (e : Event Request (World δ)) (tenant id : Int) :
    (past ++ [e]).countP (·.changes tenant id)
      = past.countP (·.changes tenant id) + if e.changes tenant id then 1 else 0 := by
  rw [List.countP_append, List.countP_singleton]

namespace Reports

/-- Nothing but an update of a report comes between its rows in two stores, and nothing but its
deletion takes the row away. -/
def Steady (r : Reports δ) (q : Request) (s t : Store) : Prop :=
  ∀ row ∈ s.definitions,
    (q = .delete row.tenant row.id ∨ ∃ row' ∈ t.definitions, row'.id = row.id) ∧
      ∀ row' ∈ t.definitions, row'.id = row.id →
        row'.edition = row.edition ∨ r.Rewrites q row row'

/-- A request has rewritten the row of a report in one of these steps. -/
def HasRewritten (r : Reports δ) (past : List (Event Request (World δ))) (q : Request) : Prop :=
  ∃ e ∈ past, e.label = q ∧ ∃ row ∈ e.before.store.definitions,
    ∃ row' ∈ e.after.store.definitions, row'.id = row.id ∧ r.Rewrites q row row'

theorem HasRewritten.concat {past : List (Event Request (World δ))} (h : r.HasRewritten past q)
    (e : Event Request (World δ)) : r.HasRewritten (past ++ [e]) q := by
  obtain ⟨e₀, he₀, h⟩ := h
  exact ⟨e₀, List.mem_append_left _ he₀, h⟩

/-- What the editions of all reports are, given the steps that have been taken. Ids are not given
twice, so the updates of a report that was taken away are not counted for another one. -/
structure Counted (r : Reports δ) (past : List (Event Request (World δ))) (s : Store) : Prop where
  ids : Numbered (s.definitions.map (·.id)) s.lastDefinition
  digested : ∀ row ∈ s.definitions, row.Digested
  version : ∀ row ∈ s.definitions,
    row.version = 1 + (past.countP (·.changes row.tenant row.id) : Nat)
  fresh : ∀ tenant id, s.lastDefinition < id → past.countP (·.changes tenant id) = 0
  steady : ∀ e ∈ past, r.Steady e.label e.before.store e.after.store

variable {past : List (Event Request (World δ))} {w w' : World δ} {wrote wrote' : Bool}

/-- A step that changes no digest: each row was there before with the same edition, or it is that
of a new report. -/
theorem Counted.unchanged (h : r.Counted past w.store)
    (hids : Numbered (w'.store.definitions.map (·.id)) w'.store.lastDefinition)
    (hlast : w.store.lastDefinition ≤ w'.store.lastDefinition)
    (hchanges : ∀ tenant id, Event.changes tenant id ⟨q, w, w'⟩ = false)
    (hkept : ∀ row ∈ w.store.definitions,
      q = .delete row.tenant row.id ∨ ∃ row' ∈ w'.store.definitions, row'.id = row.id)
    (hrows : ∀ row' ∈ w'.store.definitions,
      (∃ row ∈ w.store.definitions, row.edition = row'.edition) ∨
        (row'.Digested ∧ row'.version = 1 ∧ w.store.lastDefinition < row'.id)) :
    r.Counted (past ++ [⟨q, w, w'⟩]) w'.store := by
  have hcount : ∀ tenant id, (past ++ [Event.mk q w w']).countP (·.changes tenant id)
      = past.countP (·.changes tenant id) := by
    intro tenant id
    rw [Event.countP_changes_concat, hchanges, if_neg Bool.false_ne_true, Nat.add_zero]
  refine ⟨hids, fun row' hrow' => ?_, fun row' hrow' => ?_, fun tenant id hlt => ?_, ?_⟩
  · rcases hrows row' hrow' with ⟨row, hrow, hedition⟩ | ⟨hdigested, -, -⟩
    · obtain ⟨-, -, -, hhash, hlayout⟩ := DefinitionRow.edition_eq_iff.mp hedition
      exact (h.digested row hrow).congr hhash hlayout
    · exact hdigested
  · rw [hcount]
    rcases hrows row' hrow' with ⟨row, hrow, hedition⟩ | ⟨-, hversion, hlt⟩
    · obtain ⟨htenant, hid, hversion, -, -⟩ := DefinitionRow.edition_eq_iff.mp hedition
      rw [← hversion, ← htenant, ← hid]
      exact h.version row hrow
    · rw [h.fresh row'.tenant row'.id hlt]
      exact hversion
  · rw [hcount]
    exact h.fresh tenant id (Int.lt_of_le_of_lt hlast hlt)
  · refine List.forall_mem_append.mpr ⟨h.steady, List.forall_mem_singleton.mpr ?_⟩
    refine fun row hrow => ⟨hkept row hrow, fun row' hrow' hid => ?_⟩
    rcases hrows row' hrow' with ⟨row₀, hrow₀, hedition⟩ | ⟨-, -, hlt⟩
    · have hid₀ := (DefinitionRow.edition_eq_iff.mp hedition).2.1
      obtain rfl : row₀ = row := h.ids.eq_of_id hrow₀ hrow (hid₀.trans hid)
      exact .inl hedition.symm
    · have hle := h.ids.le_last row.id (List.mem_map_of_mem hrow)
      rw [hid] at hlt
      omega

/-- A step that rewrites the row of a report. The update is counted if the digest is another. -/
theorem Counted.rewritten {row row' : DefinitionRow} (h : r.Counted past w.store)
    (hreplaces : Store.Replaces row row' w.store w'.store) (hrewrites : r.Rewrites q row row') :
    r.Counted (past ++ [⟨q, w, w'⟩]) w'.store := by
  obtain ⟨draft, l, hq, -, hrewritten⟩ := id hrewrites
  have hrow := List.mem_of_find?_eq_some hreplaces.found
  obtain ⟨htenant, hid⟩ := hreplaces.same
  have hchanges : Event.changes row.tenant row.id ⟨q, w, w'⟩ = decide (l.hash ≠ row.hash) := by
    have hupdates : q.updates row.tenant row.id = true := Request.updates_iff.mpr ⟨draft, hq⟩
    rw [Event.changes, hupdates, Bool.true_and, Store.digest?, Store.digest?, hreplaces.replaced,
      hreplaces.found, ← hrewritten.hash]
    simp [bne, beq_eq_decide]
  -- no other report is updated
  have hothers : ∀ tenant id, ¬ (row.tenant = tenant ∧ row.id = id) →
      (past ++ [Event.mk q w w']).countP (·.changes tenant id)
        = past.countP (·.changes tenant id) := by
    intro tenant id hne
    have hupdates : q.updates tenant id = false := by
      simpa [hq, Request.updates] using hne
    rw [Event.countP_changes_concat, Event.changes, hupdates, Bool.false_and,
      if_neg Bool.false_ne_true, Nat.add_zero]
  refine ⟨?_, fun x hx => ?_, fun x hx => ?_, fun tenant id hlt => ?_, ?_⟩
  · rw [hreplaces.ids, hreplaces.lastDefinition]
    exact h.ids
  · rcases hreplaces.others x hx with rfl | ⟨hx, -⟩
    · exact ⟨l, hrewritten.layout, hrewritten.hash⟩
    · exact h.digested x hx
  · rcases hreplaces.others x hx with rfl | ⟨hx, hne⟩
    · rw [htenant, hid, Event.countP_changes_concat, hchanges, hrewritten.version,
        h.version row hrow]
      by_cases hdigest : l.hash = row.hash <;> simp [hdigest, Int.add_assoc]
    · rw [hothers _ _ hne]
      exact h.version x hx
  · rw [hreplaces.lastDefinition] at hlt
    -- the id of a row has been given
    rw [hothers tenant id fun hsame => ?_]
    · exact h.fresh tenant id hlt
    · have hle := h.ids.le_last row.id (List.mem_map_of_mem hrow)
      rw [hsame.2] at hle
      exact absurd hlt (Int.not_lt.mpr hle)
  · refine List.forall_mem_append.mpr ⟨h.steady, List.forall_mem_singleton.mpr ?_⟩
    refine fun y hy => ⟨.inr (Store.exists_row_of_ids hreplaces.ids hy), fun x hx hxy => ?_⟩
    rcases hreplaces.others x hx with rfl | ⟨hx, -⟩
    · obtain rfl : row = y := h.ids.eq_of_id hrow hy (hid.symm.trans hxy)
      exact .inr hrewrites
    · obtain rfl : x = y := h.ids.eq_of_id hx hy hxy
      exact .inl rfl

/-- **What each step preserves**. -/
theorem Counted.step (h : r.Counted past w.store) (hstep : r.RevisesWorld q wrote w w' wrote') :
    r.Counted (past ++ [⟨q, w, w'⟩]) w'.store ∧
      (wrote' = true → wrote = true ∨ r.HasRewritten (past ++ [⟨q, w, w'⟩]) q) := by
  unfold RevisesWorld at hstep
  generalize hafter : w'.store = t at hstep
  have hother : (∀ tenant id, q.updates tenant id = false) →
      ∀ tenant id, Event.changes tenant id ⟨q, w, w'⟩ = false := by
    intro hq tenant id
    rw [Event.changes, hq tenant id, Bool.false_and]
  cases hstep with
  | keeps hsame =>
    rw [← hafter] at hsame ⊢
    refine ⟨h.unchanged ?_ hsame.lastDefinition.ge ?_
      (fun _ hrow => .inr (Store.exists_row_of_ids hsame.ids hrow))
      fun _ hrow' => .inl (hsame.exists_row hrow'), .inl⟩
    · rw [hsame.ids, hsame.lastDefinition]
      exact h.ids
    · intro tenant id
      rw [Event.changes, hsame.digest?_eq, bne_self_eq_false, Bool.and_false]
  | @adds d hq hnew =>
    rw [Store.insertDefinition_snd] at hafter
    rw [Store.insertDefinition_snd, ← hafter]
    refine ⟨h.unchanged ?_ ?_ (hother hq) (fun row hrow => .inr ⟨row, ?_, rfl⟩) ?_, .inl⟩
    · rw [hafter, List.map_append]
      exact h.ids.concat
    · rw [hafter]
      exact Int.le_of_lt (Int.lt_succ _)
    · rw [hafter]
      exact List.mem_append_left _ hrow
    · intro row' hrow'
      rw [hafter] at hrow'
      rcases List.mem_append.mp hrow' with hrow' | hrow'
      · exact .inl ⟨row', hrow', rfl⟩
      · obtain rfl := List.mem_singleton.mp hrow'
        exact .inr ⟨DefinitionRow.digested_ofDefinition _, hnew, Int.lt_succ _⟩
  | @removes tenant id hq =>
    rw [← hafter]
    refine ⟨h.unchanged ?_ ?_ (hother fun _ _ => by rw [hq]; rfl) (fun row hrow => ?_) ?_, .inl⟩
    · rw [hafter]
      exact h.ids.sublist (List.filter_sublist.map _)
    · rw [hafter]
      exact Int.le_refl _
    · rcases hat : row.isAt tenant id with _ | _
      · refine .inr ⟨row, ?_, rfl⟩
        rw [hafter]
        exact List.mem_filter.mpr ⟨hrow, by simp [hat]⟩
      · obtain ⟨rfl, rfl⟩ := DefinitionRow.isAt_iff.mp hat
        exact .inl hq
    · intro row' hrow'
      rw [hafter] at hrow'
      exact .inl ⟨row', List.mem_of_mem_filter hrow', rfl⟩
  | @writes _ _ draft current d now hq hbuild hcurrent =>
    obtain ⟨row, hfind, hread⟩ := readRow_eq_ok_some.mp hcurrent
    have hrow := List.mem_of_find?_eq_some hfind
    obtain ⟨rfl, rfl⟩ := DefinitionRow.isAt_iff.mp (List.find?_some hfind)
    have hreplaces := Store.replaces_changeDefinition (f := (·.edited d
      (current.nextVersion d.layout) now)) h.ids hfind fun _ => ⟨rfl, rfl⟩
    rw [← hafter] at hreplaces ⊢
    have hrewrites : r.Rewrites q row (row.edited d (current.nextVersion d.layout) now) :=
      ⟨draft, d.layout, hq, hbuild, (h.digested row hrow).rewritten_edited hread now⟩
    refine ⟨h.rewritten hreplaces hrewrites, fun _ => .inr ⟨⟨q, w, w'⟩, by simp, rfl, row, hrow, _,
      List.mem_of_find?_eq_some hreplaces.replaced, hreplaces.same.2, hrewrites⟩⟩

variable {qs : List Request} {w₀ : World δ} {events : List (Event Request (World δ))}
  {rest : List (Request × Process (World δ) Answered)}

/-- What all steps preserve, and what requests have done that are still going on. -/
theorem counted_of_history (hempty : w₀.store = {})
    (h : History (qs.map fun q => (q, r.answering q)) w₀ events rest w) :
    r.Counted events w.store ∧ ∀ x ∈ rest, ∃ wrote,
      Follows (r.RevisesWorld x.1) (Settled x.1) wrote x.2 ∧
        (wrote = true → r.HasRewritten events x.1) := by
  have hfollows : ∀ x ∈ qs.map fun q => (q, r.answering q),
      Follows (r.RevisesWorld x.1) (Settled x.1) false x.2 := by
    intro x hx
    obtain ⟨q, -, rfl⟩ := List.mem_map.mp hx
    exact r.follows_answering q
  have hstart : r.Counted [] w₀.store := by
    rw [hempty]
    exact ⟨.nil, by simp, by simp, by simp, by simp⟩
  refine h.invariant r.RevisesWorld Settled false (fun past w => r.Counted past w.store)
    (fun past q wrote => wrote = true → r.HasRewritten past q) hfollows hstart
    (fun _ hwrote => nomatch hwrote)
    (fun past e q wrote hnote hwrote => (hnote hwrote).concat e) ?_
  -- a request that has written stays one when others take their steps
  intro past q wrote w w' wrote' hstep hcounted hnote
  obtain ⟨hcounted', hwrites⟩ := hcounted.step hstep
  refine ⟨hcounted', fun hwrote' => ?_⟩
  rcases hwrites hwrote' with hwrote | hrewritten
  · exact (hnote hwrote).concat _
  · exact hrewritten

/-- The sales are saved, and then updated to the layout that they have. -/
def salesTwice : List Request :=
  [.save 1 1 (salesReportDraft "sales"), .update 1 1 (salesReportDraft "sales")]

/-- The row of the report stays as it is. -/
theorem perform_update_withReport : ∃ w, w.store = withReport.store ∧
    World.perform (shopReports.update 1 1 (salesReportDraft "sales")) withReport
      = (.ok (salesReport 1 (some "sales")), w) := by
  have hread := DefinitionRow.read?_ofDefinition (salesReport_legible 1 (some "sales"))
  have hget : withReport.store.getDefinition 1 1 = .ok (some (salesReport 1 (some "sales"))) := by
    rw [store_withReport]
    exact Store.getDefinition_of_find rfl hread
  have hversion : (salesReport 1 (some "sales")).nextVersion salesLayout = 1 := if_pos rfl
  have hsame : shopReports.edit (salesReport 1 (some "sales")) (salesReportDraft "sales")
      salesLayout withReport (.ofDefinition (salesReport 1 (some "sales")))
        = .ofDefinition (salesReport 1 (some "sales")) := by
    rw [edit, hversion]
    rfl
  obtain ⟨row, w, -, hstore, hfind, hanswer⟩ :=
    perform_update (build_salesReportDraft (.inl rfl)) hget
  have hstays : w.store = withReport.store := by
    have hat : (DefinitionRow.ofDefinition (salesReport 1 (some "sales"))).isAt 1 1 = true := rfl
    rw [hstore, store_withReport, Store.changeDefinition, List.map_singleton, if_pos hat, hsame]
  have hrow : shopReports.edit (salesReport 1 (some "sales")) (salesReportDraft "sales")
      salesLayout withReport row = .ofDefinition (salesReport 1 (some "sales")) := by
    rw [hstays, store_withReport] at hfind
    exact (Option.some.inj hfind).symm
  rw [hrow, hread] at hanswer
  exact ⟨w, hstays, hanswer⟩

theorem run_answering (r : Reports δ) (q : Request) (w : World δ) : (r.answering q).run w
    = (⟨q, (World.perform (r.operation q) w).1⟩, (World.perform (r.operation q) w).2) := by
  unfold answering
  rw [Process.run_bind]
  rfl

theorem interleaved_salesTwice : ∃ w answer, w.store = withReport.store ∧
    Interleaved (salesTwice.map shopReports.answering) { data := () }
      [.done answer, .done ⟨.update 1 1 (salesReportDraft "sales"),
        .ok (salesReport 1 (some "sales"))⟩] w := by
  obtain ⟨w, hstore, hupdate⟩ := perform_update_withReport
  have hsaved : ((shopReports.answering (.save 1 1 (salesReportDraft "sales"))).run
      { data := () }).2 = withReport := by
    rw [run_answering, withReport, handle, process, Process.run_forget]
    rfl
  have hupdated : (shopReports.answering (.update 1 1 (salesReportDraft "sales"))).run withReport
      = (⟨.update 1 1 (salesReportDraft "sales"), .ok (salesReport 1 (some "sales"))⟩, w) := by
    have hrun : World.perform (shopReports.operation (.update 1 1 (salesReportDraft "sales")))
      withReport = (.ok (salesReport 1 (some "sales")), w) := hupdate
    rw [run_answering, hrun]
  have hsave := Process.interleaved_run []
    [shopReports.answering (.update 1 1 (salesReportDraft "sales"))]
    (shopReports.answering (.save 1 1 (salesReportDraft "sales"))) { data := () }
  rw [hsaved] at hsave
  generalize ((shopReports.answering _).run { data := () }).1 = answer at hsave
  have hwrite := Process.interleaved_run [.done answer] []
    (shopReports.answering (.update 1 1 (salesReportDraft "sales"))) withReport
  rw [hupdated] at hwrite
  exact ⟨w, answer, hstore, hsave.trans hwrite⟩

end Reports

end Counting

end TenantReports
