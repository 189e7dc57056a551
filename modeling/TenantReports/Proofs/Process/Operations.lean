import TenantReports.Proofs.Process.Pool
import TenantReports.Run.World

/-!
# Operations on the world, step by step

What an operation does is told by its steps on the store. The rules here follow the way operations
are put together: a step on the store, a reading, one operation after another, a failure.

## Main definitions

* `World.Storewise`: a relation on stores, as one on worlds

## Main results

* `World.each_onStore`, `World.each_op_bind`, …: what every step of an operation does
* `World.maintains_orFail`, `World.maintains_op_bind`, …: what operations note of themselves
* `World.run_onStore`, `World.run_op_bind`, …: what an operation that runs alone does
-/

namespace TenantReports.World

open Process (Each Maintains)
open Time (Instant)

variable {δ ε ε' α β : Type}

/-- A relation on stores, as one on worlds. -/
def Storewise (R : Store → Store → Prop) (w w' : World δ) : Prop := R w.store w'.store

/-! ## Every step -/

section Each

variable {R : Store → Store → Prop} {R' : World δ → World δ → Prop}

theorem each_onStore {f : Store → α × Store} (h : ∀ s, R s (f s).2) :
    (onStore f : Process (World δ) α).Each (Storewise R) :=
  Process.each_atomically.mpr fun w => h w.store

theorem each_ofStore {f : Store → α} (hrefl : ∀ s, R s s) :
    (ofStore f : Process (World δ) α).Each (Storewise R) :=
  each_onStore hrefl

/-- A step at a reading of the clock. -/
theorem each_onStoreAt {host : Host δ} {f : Instant → Store → α × Store}
    (h : ∀ n s, R s (f (host.clock n) s).2) : (onStoreNow host f).Each (Storewise R) :=
  Process.each_atomically.mpr fun w => h w.readings w.store

theorem each_onStoreNow {host : Host δ} {f : Instant → Store → α × Store}
    (h : ∀ now s, R s (f now s).2) : (onStoreNow host f).Each (Storewise R) :=
  each_onStoreAt fun _ s => h _ s

/-- A step that leaves the store as it is. -/
theorem each_elsewhere {act : World δ → α × World δ} (hrefl : ∀ s, R s s)
    (hact : ∀ w, (act w).2.store = w.store) : (Process.atomically act).Each (Storewise R) := by
  rw [Process.each_atomically]
  intro w
  rw [Storewise, hact w]
  exact hrefl w.store

theorem each_orFail {cause : ε → ε'} {p : Process (World δ) (Except ε α)} (h : p.Each R') :
    (orFail cause p).run.Each R' :=
  h.bind fun _ => trivial

theorem each_always {p : Process (World δ) α} (h : p.Each R') :
    (always p : Op δ ε α).run.Each R' :=
  h.bind fun _ => trivial

theorem each_op_pure (a : α) : (pure a : Op δ ε α).run.Each R' := trivial

theorem each_op_bind {x : Op δ ε α} {f : α → Op δ ε β} (hx : x.run.Each R')
    (hf : ∀ a, (f a).run.Each R') : (x >>= f).run.Each R' := by
  rw [ExceptT.run_bind]
  refine hx.bind fun r => ?_
  cases r with
  | ok a => exact hf a
  | error e => exact trivial

/-- What is done under a condition, and what follows in any case. -/
theorem each_when {c : Prop} [Decidable c] {x : Op δ ε Unit} {f : Unit → Op δ ε α}
    (hx : x.run.Each R') (hf : ∀ u, (f u).run.Each R') :
    (if c then x >>= f else f ()).run.Each R' := by
  split
  · exact each_op_bind hx hf
  · exact hf ()

theorem each_op_map {x : Op δ ε α} (f : α → β) (hx : x.run.Each R') : (f <$> x).run.Each R' := by
  refine Each.bind hx fun r => ?_
  cases r <;> exact trivial

end Each

/-! ## Notes -/

section Maintains

variable {γ : Type} {Inv : Multiset γ → World δ → Prop} {g : γ}

theorem maintains_orFail {cause : ε → ε'} {p : Process (World δ) (Except ε α)}
    {post : Except ε' α → γ → Prop} (h : Maintains Inv (fun a => post (a.mapError cause)) g p) :
    Maintains Inv post g (orFail cause p).run :=
  h.bind fun _ _ hpost => hpost

theorem maintains_always {p : Process (World δ) α} {post : Except ε α → γ → Prop}
    (h : Maintains Inv (fun a => post (.ok a)) g p) :
    Maintains Inv post g (always p : Op δ ε α).run :=
  h.bind fun _ _ hpost => hpost

/-- One operation after another: where the first one fails, its note is the last one. -/
theorem maintains_op_bind {x : Op δ ε α} {f : α → Op δ ε β} {post : Except ε β → γ → Prop}
    (mid : Except ε α → γ → Prop) (hx : Maintains Inv mid g x.run)
    (herror : ∀ err g', mid (.error err) g' → post (.error err) g')
    (hok : ∀ a g', mid (.ok a) g' → Maintains Inv post g' (f a).run) :
    Maintains Inv post g (x >>= f).run := by
  rw [ExceptT.run_bind]
  refine hx.bind fun r g' hmid => ?_
  cases r with
  | ok a => exact hok a g' hmid
  | error err => exact herror err g' hmid

theorem maintains_op_map {x : Op δ ε α} (f : α → β) {post : Except ε β → γ → Prop}
    (hx : Maintains Inv (fun a => post (a.map f)) g x.run) :
    Maintains Inv post g (f <$> x).run := by
  refine hx.bind fun r g' hpost => ?_
  cases r <;> exact hpost

end Maintains

/-! ## Runs -/

@[simp] theorem run_onStore (f : Store → α × Store) (w : World δ) :
    (onStore f).run w = ((f w.store).1, { w with store := (f w.store).2 }) := rfl

@[simp] theorem run_ofStore (f : Store → α) (w : World δ) : (ofStore f).run w = (f w.store, w) :=
  rfl

@[simp] theorem run_onStoreNow (host : Host δ) (f : Instant → Store → α × Store) (w : World δ) :
    (onStoreNow host f).run w = ((f (host.clock w.readings) w.store).1,
      { w with
        readings := w.readings + 1, store := (f (host.clock w.readings) w.store).2 }) := rfl

@[simp] theorem run_orFail (cause : ε → ε') (p : Process (World δ) (Except ε α)) (w : World δ) :
    (orFail cause p).run.run w = ((p.run w).1.mapError cause, (p.run w).2) := by
  change (p >>= fun r => pure (r.mapError cause)).run w = _
  rw [Process.run_bind, Process.run_pure]

@[simp] theorem run_always (p : Process (World δ) α) (w : World δ) :
    (always p : Op δ ε α).run.run w = (.ok (p.run w).1, (p.run w).2) := by
  change (p >>= fun a => pure (Except.ok a)).run w = _
  rw [Process.run_bind, Process.run_pure]

@[simp] theorem run_op_pure (a : α) (w : World δ) :
    (pure a : Op δ ε α).run.run w = (.ok a, w) := rfl

@[simp] theorem run_throw (e : ε) (w : World δ) :
    (throw e : Op δ ε α).run.run w = (.error e, w) := rfl

/-- One operation after another: the second one runs if the first one succeeds. -/
theorem run_op_bind (x : Op δ ε α) (f : α → Op δ ε β) (w : World δ) :
    (x >>= f).run.run w = match x.run.run w with
      | (.ok a, w') => (f a).run.run w'
      | (.error e, w') => (.error e, w') := by
  rw [ExceptT.run_bind, Process.run_bind]
  rcases x.run.run w with ⟨_ | _, w'⟩ <;> rfl

/-- An operation that runs alone leaves a world with a property behind. -/
def Leaves (op : Op δ ε α) (w : World δ) (P : World δ → Prop) : Prop := P (op.run.run w).2

section Leaves

variable {P : World δ → Prop} {w : World δ}

/-- It is shown for the first operation where that one fails, and for the second one from where
the first one ends. -/
theorem leaves_bind {x : Op δ ε α} {f : α → Op δ ε β}
    (herror : ∀ e, (x.run.run w).1 = .error e → P (x.run.run w).2)
    (hok : ∀ a, (x.run.run w).1 = .ok a → Leaves (f a) (x.run.run w).2 P) :
    Leaves (x >>= f) w P := by
  unfold Leaves
  rw [run_op_bind]
  rcases hx : x.run.run w with ⟨e | a, w'⟩
  · rw [hx] at herror
    exact herror e rfl
  · rw [hx] at hok
    exact hok a rfl

theorem leaves_orFail {cause : ε → ε'} {p : Process (World δ) (Except ε α)}
    (h : P (p.run w).2) : Leaves (orFail cause p) w P := by
  unfold Leaves
  rw [run_orFail]
  exact h

theorem leaves_orFail_bind {cause : ε → ε'} {p : Process (World δ) (Except ε α)}
    {f : α → Op δ ε' β} (herror : ∀ e, (p.run w).1 = .error e → P (p.run w).2)
    (hok : ∀ a, (p.run w).1 = .ok a → Leaves (f a) (p.run w).2 P) :
    Leaves (orFail cause p >>= f) w P := by
  unfold Leaves
  rw [run_op_bind, run_orFail]
  rcases hp : p.run w with ⟨e | a, w'⟩
  · rw [hp] at herror
    exact herror e rfl
  · rw [hp] at hok
    exact hok a rfl

theorem leaves_always_bind {p : Process (World δ) α} {f : α → Op δ ε β}
    (h : Leaves (f (p.run w).1) (p.run w).2 P) : Leaves (always p >>= f) w P := by
  unfold Leaves at h ⊢
  rw [run_op_bind, run_always]
  exact h

end Leaves

end TenantReports.World
