import TenantReports.Proofs.Reports.Errands
import TenantReports.Proofs.Store.Defaults

/-!
# One report, many clients

Clients that ask for one report at the same time do not undo what others did. An update reads the
whole report and writes it back later, but not the columns that runs, schedules and marks of other
clients may have changed in between. So when all requests have been answered, every run that counts
has been counted, the mark of a scheduled report is right, a default report is one that was made the
default one, and at all times the active schedules of the tenant are within the cap.

Each of these is kept by notes of its own: whether the run of a request was counted, which report a
request owes a refresh, and whether a request has set the mark.

## Main definitions

* `Engine.countsAnswer`, `Answered.isCounted`: the answer of a run that was counted
* `Answered.isMarked`, `Answered.MarksIfReadable`: what becomes of a request to set the mark
* `Marking`: the mark of a default report

## Main results

* `Reports.maintains_counts`, `Reports.maintains_marking`: what a request does to the books and to
  the mark, whatever goes on beside it
* `Reports.report_of_interleaved`: what the requests leave behind
-/

namespace TenantReports

open Process (Interleaved Maintains)

/-! ## Counted runs -/

section Counts

variable {δ : Type}

/-- A run with this answer was counted: if failed runs count, it has compiled, otherwise it has
completed. -/
def Engine.countsAnswer (e : Engine δ) : Except RunFailure RunOutcome → Bool
  | .ok _ => true
  | .error failure => e.countFailed && failure.fault.kind != .compile

/-- The request was a run, and it was counted. -/
def Answered.isCounted (e : Engine δ) : Answered → Bool
  | ⟨.run _ _, .ok outcome⟩ => e.countsAnswer (.ok outcome)
  | ⟨.run _ _, .error (.run failure)⟩ => e.countsAnswer (.error failure)
  | _ => false

variable {e : Engine δ} {d : Definition} {q : Request} {tenant report : Int}

theorem Answered.isCounted_of_not_run (hq : ¬ q.IsRun) (answer : Except ReportError q.Answer) :
    isCounted e ⟨q, answer⟩ = false := by
  cases q <;> first | rfl | exact absurd trivial hq

/-- The note of a run that ended says whether its answer counts. -/
theorem Engine.Settled.counted_eq {request : RunRequest}
    {answer : Except RunFailure RunOutcome} {a : Attempt} (h : e.Settled d request answer a) :
    a.report = (d.tenant, d.id) ∧ a.counted = e.countsAnswer answer := by
  obtain ⟨x, rfl, -, htells, hends⟩ := h
  refine ⟨rfl, ?_⟩
  show e.counts d request.tenant x = _
  unfold counts
  cases answer with
  | ok outcome =>
    rw [hends.1, decide_eq_true htells.1, ite_self]
    rfl
  | error failure =>
    have hnot : x.status ≠ .completed := by
      rw [htells.1]
      decide
    have hkind := hends.1
    show _ = (e.countFailed && failure.fault.kind != .compile)
    cases e.countFailed with
    | false =>
      rw [if_neg Bool.false_ne_true, decide_eq_false hnot, Bool.false_and]
    | true =>
      -- a failed run has compiled, unless that is what failed
      rw [if_pos rfl, Bool.true_and, Bool.eq_iff_iff, bne_iff_ne, ne_eq, hkind, Bool.not_eq_false]

end Counts

namespace Reports

variable {δ : Type} {r : Reports δ} {q : Request} {tenant report : Int}

/-- **A request keeps the books**: it counts for the report if its answer says so. -/
theorem maintains_counts {base : Store} (hids : Function.Injective r.engine.host.executionId)
    (hq : q.Concerns tenant report) :
    Maintains (Engine.Keeping r.engine.host.coming base)
      (fun answered a =>
        a.report = (tenant, report) ∧ a.counted = Answered.isCounted r.engine answered)
      ⟨(tenant, report), none, false⟩ (r.answering q) := by
  by_cases hrun : q.IsRun
  case neg =>
    -- other requests leave the books alone
    apply maintains_beside hq
    · intro notes w w' hsteps hw
      exact hw.of_uncounted (hsteps.uncounted hrun)
    · intro answer
      exact ⟨rfl, (Answered.isCounted_of_not_run hrun answer).symm⟩
  cases q with
  | run i request =>
    obtain ⟨rfl, rfl⟩ := hq
    have hcounts : Maintains (Engine.Keeping r.engine.host.coming base)
        (fun answer a => a.report = (request.tenant, i) ∧
          a.counted = Answered.isCounted r.engine ⟨.run i request, answer⟩)
        ⟨(request.tenant, i), none, false⟩ (r.run i request).run := by
      refine World.maintains_op_bind _ (maintains_get _ _ _) ?_ ?_
      · rintro _ _ ⟨rfl, rfl | ⟨rfl, -⟩⟩
        · exact ⟨rfl, rfl⟩
        · exact ⟨rfl, rfl⟩
      · rintro d _ ⟨rfl, htenant, hid⟩
        rw [← htenant, ← hid]
        refine World.maintains_orFail ((Engine.maintains_execute hids d request).mono ?_)
        intro answer a ha
        obtain ⟨hreport, hcounted⟩ := ha.counted_eq
        refine ⟨hreport, ?_⟩
        rw [hcounted]
        cases answer <;> rfl
    exact hcounts.bind fun _ _ ha => Process.maintains_pure ha
  | _ => exact hrun.elim

end Reports

/-! ## The mark of a default report -/

/-- The request has made its report the default one. -/
def Answered.isMarked : Answered → Bool
  | ⟨.setDefault _ _, .ok _⟩ => true
  | _ => false

/-- What becomes of a request to make a report the default one: if it fails, the report could not be
read. -/
def Answered.MarksIfReadable : Answered → Prop
  | ⟨.setDefault _ _, .error e⟩ => e = .store .unreadable
  | _ => True

/-- The report is there, and it is a default one if it was one at the start or a request has made it
one. -/
def Marking {δ : Type} (tenant report : Int) (base : Bool) (notes : Multiset Bool) (w : World δ) :
    Prop :=
  ∃ row, w.store.definitionRow? tenant report = some row ∧
    (row.isDefault = true ↔ base = true ∨ true ∈ notes)

namespace Marking

variable {δ : Type} {tenant report : Int} {base : Bool} {notes others : Multiset Bool}
  {w w' : World δ}

/-- A step that leaves alone which reports are default ones. -/
theorem of_flags (h : Marking tenant report base notes w)
    (hflags : w'.store.definitions.map DefinitionRow.flag
      = w.store.definitions.map DefinitionRow.flag) : Marking tenant report base notes w' := by
  obtain ⟨row, hrow, hmark⟩ := h
  let p : Int × Int × Bool → Bool := fun m => m.1 == tenant && m.2.1 == report
  have hp : ∀ r : DefinitionRow, r.isAt tenant report = p r.flag := fun _ => rfl
  have hsame := Store.map_definitionRow?_eq hflags hp
  rw [hrow, Option.map_some, Option.map_eq_some_iff] at hsame
  obtain ⟨row', hrow', hflag⟩ := hsame
  simp only [DefinitionRow.flag, Prod.mk.injEq] at hflag
  refine ⟨row', hrow', ?_⟩
  rw [hflag.2.2]
  exact hmark

/-- The report is made a default one, or it cannot be read. -/
theorem mark (h : Marking tenant report base (false ::ₘ others) w)
    (hstore : w'.store = (w.store.setDefault tenant report).2) :
    ((w.store.setDefault tenant report).1 = .error .unreadable ∧
        Marking tenant report base (false ::ₘ others) w') ∨
      ((∃ d, (w.store.setDefault tenant report).1 = .ok d) ∧
        Marking tenant report base (true ::ₘ others) w') := by
  obtain ⟨row, hrow, hmark⟩ := h
  rcases w.store.setDefault_answers tenant report with
    ⟨e, hneed, heq⟩ | ⟨d, row', hok, hfound, hnow⟩
  · left
    -- the report is there
    have hunreadable : e = .unreadable := by
      by_contra hne
      rw [Store.definitionRow?_eq_none hneed hne] at hrow
      cases hrow
    rw [heq] at hstore ⊢
    refine ⟨congrArg Except.error hunreadable, row, ?_, hmark⟩
    rw [hstore]
    exact hrow
  · right
    refine ⟨⟨d, hok⟩, { row' with isDefault := true }, ?_, ?_⟩
    · rw [hstore]
      exact hnow
    · simp

end Marking

namespace Reports

variable {δ : Type} {r : Reports δ} {q : Request} {tenant report : Int}

/-- A report is made a default one, whatever goes on beside it. -/
theorem maintains_setDefault (tenant report : Int) (base : Bool) :
    Maintains (Marking tenant report base)
      (fun answer marked => marked = Answered.isMarked ⟨.setDefault tenant report, answer⟩ ∧
        Answered.MarksIfReadable ⟨.setDefault tenant report, answer⟩) false
      (setDefault tenant report : Op δ Definition).run := by
  unfold setDefault
  apply World.maintains_op_bind _ (maintains_get tenant report false)
  · rintro e _ ⟨rfl, rfl | ⟨-, others, w, ⟨row, hrow, -⟩, hnone⟩⟩
    · exact ⟨rfl, rfl⟩
    · -- the report is always there
      rw [hnone] at hrow
      cases hrow
  rintro d _ ⟨rfl, -⟩
  refine World.maintains_orFail (Process.maintains_atomically fun others w hw => ?_)
  let w' : World δ := { w with store := (w.store.setDefault tenant report).2 }
  have hstore : w'.store = (w.store.setDefault tenant report).2 := rfl
  rcases hw.mark hstore with ⟨herror, hmarking⟩ | ⟨⟨d', hok⟩, hmarking⟩
  · refine ⟨false, hmarking, ?_⟩
    show false = Answered.isMarked ⟨.setDefault tenant report,
      (w.store.setDefault tenant report).1.mapError ReportError.store⟩ ∧ _
    rw [herror]
    exact ⟨rfl, rfl⟩
  · refine ⟨true, hmarking, ?_⟩
    show true = Answered.isMarked ⟨.setDefault tenant report,
      (w.store.setDefault tenant report).1.mapError ReportError.store⟩ ∧ _
    rw [hok]
    exact ⟨rfl, trivial⟩

/-- **A request that makes a report the default one does so**, and no other request does. -/
theorem maintains_marking (r : Reports δ) (base : Bool) (hq : q.Concerns tenant report) :
    Maintains (Marking tenant report base)
      (fun answered marked => marked = answered.isMarked ∧ answered.MarksIfReadable) false
      (r.answering q) := by
  by_cases hmark : q.IsMark
  case neg =>
    -- other requests leave alone which reports are default ones
    apply maintains_beside hq
    · intro notes w w' hsteps hw
      exact hw.of_flags (hsteps.store.flags hmark)
    · intro answer
      cases q with
      | setDefault => exact absurd trivial hmark
      | _ => exact ⟨rfl, trivial⟩
  cases q with
  | setDefault t i =>
    obtain ⟨rfl, rfl⟩ := hq
    exact (maintains_setDefault t i base).bind fun _ _ h => Process.maintains_pure h
  | _ => exact hmark.elim

end Reports

/-! ## What the requests leave behind -/

/-- The books at the end: the runs that count are those whose answers say so. -/
theorem countFor_eq_countP {κ : Type} {isCounted : Answered → Bool} {tenant report : Int}
    {ns : List (κ × Attempt)} {answers : List Answered}
    (h : List.Forall₂ (fun n answered =>
      n.2.report = (tenant, report) ∧ n.2.counted = isCounted answered) ns answers) :
    countFor (ns.map Prod.snd : List Attempt) (tenant, report) = answers.countP isCounted := by
  induction h with
  | nil => rfl
  | cons hn _ ih =>
    rw [List.map_cons, ← Multiset.cons_coe, countFor_cons, ih, List.countP_cons, hn.1, hn.2]
    simp

/-- The marks at the end. -/
theorem true_mem_iff_any {κ : Type} {isMarked : Answered → Bool} {ns : List (κ × Bool)}
    {answers : List Answered}
    (h : List.Forall₂ (fun n answered => n.2 = isMarked answered) ns answers) :
    true ∈ ns.map Prod.snd ↔ answers.any isMarked = true := by
  induction h with
  | nil => simp
  | cons hn _ ih =>
    rw [List.map_cons, List.mem_cons, ih, List.any_cons, Bool.or_eq_true, hn, eq_comm]

namespace Reports

variable {δ : Type} {r : Reports δ} {q : Request} {qs : List Request} {tenant report : Int}
  {ps : List (Process (World δ) Answered)} {answers : List Answered} {w w' : World δ}

/-- The cap is kept at all times. -/
theorem countActive_of_interleaved (hqs : ∀ q ∈ qs, q.Concerns tenant report)
    (hcap : w.store.countActive tenant ≤ r.engine.limits.maxActiveSchedules)
    (h : Interleaved (qs.map r.answering) w ps w') :
    w'.store.countActive tenant ≤ r.engine.limits.maxActiveSchedules := by
  refine (h.keeps (I := fun w => w.store.countActive tenant ≤ _) ?_ hcap).1
  intro p hp
  obtain ⟨q, hq, rfl⟩ := List.mem_map.mp hp
  have heach : (r.operation q).run.Keeps fun w : World δ =>
      w.store.countActive tenant ≤ r.engine.limits.maxActiveSchedules :=
    (r.each_operation (hqs q hq)).mono fun _ _ hstep => hstep.store.countActive_le
  exact heach.bind fun _ => trivial

/-- Each request gets an answer of its own. -/
theorem requests_of_interleaved (hqs : ∀ q ∈ qs, q.Concerns tenant report)
    (h : Interleaved (qs.map r.answering) w (answers.map .done) w') :
    answers.map (·.1) = qs := by
  have hanswers : ∀ q ∈ qs, Maintains (fun (_ : Multiset Unit) (_ : World δ) => True)
      (fun answered _ => answered.1 = q) () (r.answering q) :=
    fun q hq => maintains_beside (hqs q hq) (fun _ _ => trivial) fun _ => rfl
  obtain ⟨ns, hlabels, hends, -⟩ := h.exists_notes hanswers trivial
  rw [← hlabels, ← List.forall₂_eq_eq_eq, List.forall₂_map_left_iff, List.forall₂_map_right_iff]
  exact hends.flip

/-- All runs that count have been counted. -/
theorem executionCount_of_interleaved (hids : Function.Injective r.engine.host.executionId)
    (hfresh : ∀ x ∈ w.store.executions, ¬ r.engine.host.coming w.issued x.id)
    (hqs : ∀ q ∈ qs, q.Concerns tenant report)
    (h : Interleaved (qs.map r.answering) w (answers.map .done) w') {row row' : DefinitionRow}
    (hrow : w.store.definitionRow? tenant report = some row)
    (hrow' : w'.store.definitionRow? tenant report = some row') :
    row'.executionCount
      = row.executionCount + answers.countP (Answered.isCounted r.engine) := by
  have hstart : Engine.Keeping r.engine.host.coming w.store
      (qs.map fun _ => (⟨(tenant, report), none, false⟩ : Attempt) : List Attempt) w := by
    apply Store.books_start _ hfresh
    intro a ha
    obtain ⟨q, -, rfl⟩ := List.mem_map.mp (Multiset.mem_coe.mp ha)
    exact ⟨rfl, rfl⟩
  obtain ⟨ns, -, hends, hbooks⟩ := h.exists_notes
    (fun q hq => maintains_counts hids (hqs q hq)) hstart
  have hrows : (w.store.definitionRow? tenant report = none ∧
      w'.store.definitionRow? tenant report = none) ∨
      ∃ r r', w.store.definitionRow? tenant report = some r ∧
        w'.store.definitionRow? tenant report = some r' ∧
        r.Grown (countFor (ns.map Prod.snd : List Attempt) (r.tenant, r.id)) r' := by
    apply find?_of_forall₂ hbooks.counts
    intro r r' hgrown
    unfold DefinitionRow.isAt
    rw [hgrown.tenant, hgrown.id]
  rcases hrows with ⟨hnone, -⟩ | ⟨r₀, r₁, hr₀, hr₁, hgrown⟩
  · rw [hnone] at hrow
    cases hrow
  · obtain rfl : r₀ = row := Option.some.inj (hr₀.symm.trans hrow)
    obtain rfl : r₁ = row' := Option.some.inj (hr₁.symm.trans hrow')
    obtain ⟨htenant, hid⟩ := DefinitionRow.isAt_iff.mp (List.find?_some hr₀)
    rw [hgrown.executionCount, htenant, hid, countFor_eq_countP hends]

/-- The mark of the scheduled report is right. -/
theorem marked_of_interleaved
    (hnumbered : Numbered (w.store.schedules.map (·.id)) w.store.lastSchedule)
    (hmarked : w.store.Marked tenant report) (hqs : ∀ q ∈ qs, q.Concerns tenant report)
    (h : Interleaved (qs.map r.answering) w (answers.map .done) w') :
    w'.store.Marked tenant report := by
  have hstart : Attended tenant report (qs.map fun _ => Errand.idle : List Errand) w := by
    have hidle : ∀ g ∈ ((qs.map fun _ => Errand.idle : List Errand) : Multiset Errand),
        g = .idle := by
      intro g hg
      obtain ⟨q, -, rfl⟩ := List.mem_map.mp (Multiset.mem_coe.mp hg)
      rfl
    refine ⟨hnumbered, fun id i hnote => ?_, ?_, fun _ => hmarked⟩
    · cases hidle _ hnote
    · obtain ⟨row, hrow, -⟩ := hmarked
      rw [hrow]
      rfl
  obtain ⟨ns, -, hends, hattended⟩ := h.exists_notes
    (fun q hq => r.maintains_errands (hqs q hq)) hstart
  apply hattended.marked
  -- nothing is owed any more
  intro howed
  obtain ⟨n, hn, howes⟩ := List.mem_map.mp (Multiset.mem_coe.mp howed)
  obtain ⟨-, -, -, -, hsettled⟩ := Process.exists_index_of_note hends hn
  exact hsettled report howes

/-- The report is a default one if it was one or was made one. A request to make it one that fails
could not read it. -/
theorem isDefault_of_interleaved (hqs : ∀ q ∈ qs, q.Concerns tenant report)
    (h : Interleaved (qs.map r.answering) w (answers.map .done) w') {row : DefinitionRow}
    (hrow : w.store.definitionRow? tenant report = some row) :
    (∃ row', w'.store.definitionRow? tenant report = some row' ∧
      row'.isDefault = (row.isDefault || answers.any Answered.isMarked)) ∧
    ∀ answered ∈ answers, answered.MarksIfReadable := by
  have hstart : Marking tenant report row.isDefault (qs.map fun _ => false : List Bool) w := by
    refine ⟨row, hrow, ?_⟩
    simp
  obtain ⟨ns, -, hends, row', hrow', hmark⟩ := h.exists_notes
    (fun q hq => r.maintains_marking row.isDefault (hqs q hq)) hstart
  refine ⟨⟨row', hrow', ?_⟩, fun answered hanswered => ?_⟩
  · rw [Bool.eq_iff_iff, Bool.or_eq_true, hmark, Multiset.mem_coe,
      true_mem_iff_any (hends.imp fun _ _ hend => hend.1)]
  · obtain ⟨i, hi⟩ := List.mem_iff_getElem?.mp hanswered
    obtain ⟨-, -, -, -, hreadable⟩ := Process.exists_note_of_index hends hi
    exact hreadable

/-- **Clients that share a report lose none of each other's changes.** Any clients ask to update the
report of a tenant, to run it, to make it the default one and to make, stop and take away schedules,
and take the steps of that in any order. Ids are given once, the mark of the scheduled report is
right at first, and the active schedules of the tenant are within the cap.

They are within the cap at all times. When all requests have been answered, the report is still
there, the runs that count have been added to its count, it is marked as scheduled exactly if it has
an active schedule, and it is a default one exactly if it was one or has been made one. -/
theorem report_of_interleaved (hids : Function.Injective r.engine.host.executionId)
    (hfresh : ∀ x ∈ w.store.executions, ¬ r.engine.host.coming w.issued x.id)
    (hnumbered : Numbered (w.store.schedules.map (·.id)) w.store.lastSchedule)
    (hcap : w.store.countActive tenant ≤ r.engine.limits.maxActiveSchedules)
    {row : DefinitionRow} (hrow : w.store.definitionRow? tenant report = some row)
    (hscheduled : row.scheduled = w.store.hasActiveSchedule tenant report)
    (hqs : ∀ q ∈ qs, q.Concerns tenant report) (h : Interleaved (qs.map r.answering) w ps w') :
    w'.store.countActive tenant ≤ r.engine.limits.maxActiveSchedules ∧
    ∀ answers : List Answered, ps = answers.map .done → answers.map (·.1) = qs ∧
      (∃ row', w'.store.definitionRow? tenant report = some row' ∧
        row'.executionCount = row.executionCount + answers.countP (Answered.isCounted r.engine) ∧
        row'.scheduled = w'.store.hasActiveSchedule tenant report ∧
        row'.isDefault = (row.isDefault || answers.any Answered.isMarked)) ∧
      ∀ answered ∈ answers, answered.MarksIfReadable := by
  refine ⟨countActive_of_interleaved hqs hcap h, ?_⟩
  rintro answers rfl
  obtain ⟨⟨row', hrow', hdefault⟩, hreadable⟩ := isDefault_of_interleaved hqs h hrow
  have hcount := executionCount_of_interleaved hids hfresh hqs h hrow hrow'
  obtain ⟨_, hsame, hmark⟩ := marked_of_interleaved hnumbered ⟨row, hrow, hscheduled⟩ hqs h
  rw [hrow', Option.some.injEq] at hsame
  subst hsame
  exact ⟨requests_of_interleaved hqs h, ⟨row', hrow', hcount, hmark, hdefault⟩, hreadable⟩

/-! ## The shop's report, moved while it is run -/

/-- The report of the shop is moved to another category. -/
def moving : Request := .update 1 1 (salesReportDraft "customers")

/-- It is scheduled, run and made a default one. -/
def sharing : List Request :=
  [.createSchedule 1 1 1 dailyAtEight, .run 1 { tenant := 1, user := 1 }, .setDefault 1 1]

/-- The report has been read, to be moved, -/
def moveBegun : Process (World Unit) Answered × World Unit :=
  (shopReports.answering moving).afterStep withReport

/-- the other requests are answered meanwhile, -/
def moveShared : List Answered × World Unit :=
  (Scheduler.sequence (sharing.map shopReports.answering)).run moveBegun.2

/-- and then the report is written. -/
def moveEnded : Answered × World Unit := moveBegun.1.run moveShared.2

theorem interleaved_moving : Interleaved ((moving :: sharing).map shopReports.answering) withReport
    ((moveEnded.1 :: moveShared.1).map .done) moveEnded.2 :=
  Scheduler.interleaved_meanwhile (shopReports.answering moving)
    (sharing.map shopReports.answering) withReport

/-- What is left of the report of the shop. -/
theorem report_of_interleaved_moving : moveEnded.2.store.countActive 1 ≤ 1 ∧
    ∃ row, moveEnded.2.store.definitionRow? 1 1 = some row ∧
      row.executionCount
        = (moveEnded.1 :: moveShared.1).countP (Answered.isCounted shopReports.engine) ∧
      row.scheduled = moveEnded.2.store.hasActiveSchedule 1 1 ∧
      row.isDefault = (moveEnded.1 :: moveShared.1).any Answered.isMarked := by
  have hqs : ∀ q ∈ moving :: sharing, q.Concerns 1 1 := by
    intro q hq
    simp only [sharing, List.mem_cons, List.not_mem_nil, or_false] at hq
    rcases hq with rfl | rfl | rfl | rfl <;> exact ⟨rfl, rfl⟩
  have hrow : withReport.store.definitionRow? 1 1
      = some (.ofDefinition (salesReport 1 (some "sales"))) := by
    rw [store_withReport]
    rfl
  obtain ⟨hcap, hend⟩ := report_of_interleaved (r := shopReports) Scheduler.executionId_injective
    (by rw [store_withReport]; exact fun x hx => absurd hx List.not_mem_nil)
    (by rw [store_withReport]; exact .nil) (by rw [store_withReport]; exact Nat.zero_le 1) hrow
    (by rw [store_withReport]; rfl) hqs interleaved_moving
  obtain ⟨-, ⟨row, hrow', hcount, hscheduled, hdefault⟩, -⟩ := hend _ rfl
  have hzero : (DefinitionRow.ofDefinition (salesReport 1 (some "sales"))).executionCount = 0 := rfl
  have hnot : (DefinitionRow.ofDefinition (salesReport 1 (some "sales"))).isDefault = false := rfl
  rw [hzero, Int.zero_add] at hcount
  rw [hnot, Bool.false_or] at hdefault
  exact ⟨hcap, row, hrow', hcount, hscheduled, hdefault⟩

end Reports

end TenantReports
