import TenantReports.Proofs.Process.Operations

/-!
# Two runs side by side

What two runs have in common is shown part by part: a rule takes the first part off both, and what
is to be shown of the rest is shown from where the runs are then. The runs have to go the same way:
a part succeeds in both or fails in both.

## Main definitions

* `Except.Rel`: two outcomes of the same kind, with relations between results and between errors
* `Process.Pair`: what two processes that run alone leave behind

## Main results

* `World.pair_op_bind`, `World.pair_orFail`, `World.pair_always`: the parts of operations
-/

namespace TenantReports

open Time (Instant)

/-- Two outcomes: two results, or two errors. -/
inductive Except.Rel {ε ε' α β : Type} (E : ε → ε' → Prop) (R : α → β → Prop) :
    Except ε α → Except ε' β → Prop
  | ok {a : α} {b : β} (h : R a b) : Rel E R (.ok a) (.ok b)
  | error {e : ε} {e' : ε'} (h : E e e') : Rel E R (.error e) (.error e')

namespace Except.Rel

variable {ε ε' ε₁ ε₁' α β γ γ' : Type} {E : ε → ε' → Prop} {E₁ : ε₁ → ε₁' → Prop}
  {R : α → β → Prop} {R₁ : γ → γ' → Prop} {x : Except ε α} {y : Except ε' β}

theorem mono {E' : ε → ε' → Prop} {R' : α → β → Prop} (h : Rel E R x y)
    (herror : ∀ e e', E e e' → E' e e') (hok : ∀ a b, R a b → R' a b) : Rel E' R' x y := by
  cases h with
  | ok h => exact .ok (hok _ _ h)
  | error h => exact .error (herror _ _ h)

theorem mapError (h : Rel E R x y) {cause : ε → ε₁} {cause' : ε' → ε₁'}
    (hcause : ∀ e e', E e e' → E₁ (cause e) (cause' e')) :
    Rel E₁ R (x.mapError cause) (y.mapError cause') := by
  cases h with
  | ok h => exact .ok h
  | error h => exact .error (hcause _ _ h)

theorem refl {E : ε → ε → Prop} {R : α → α → Prop} (hE : ∀ e, E e e) (hR : ∀ a, R a a)
    (x : Except ε α) : Rel E R x x := by
  cases x with
  | ok a => exact .ok (hR a)
  | error e => exact .error (hE e)

theorem of_eq {x y : Except ε α} (h : x = y) : Rel Eq Eq x y :=
  h ▸ refl (fun _ => rfl) (fun _ => rfl) x

end Except.Rel

/-! ## Options -/

section Options

variable {α β γ γ' : Type} {R : α → β → Prop} {S : γ → γ' → Prop} {x : Option α} {y : Option β}

theorem optionRel_refl {R : α → α → Prop} (h : ∀ a, R a a) (o : Option α) : Option.Rel R o o := by
  cases o with
  | none => exact .none
  | some a => exact .some (h a)

theorem optionRel_bind {f : α → Option γ} {g : β → Option γ'} (h : Option.Rel R x y)
    (hfg : ∀ a b, R a b → Option.Rel S (f a) (g b)) : Option.Rel S (x.bind f) (y.bind g) := by
  cases h with
  | none => exact .none
  | some h => exact hfg _ _ h

theorem optionRel_map {f : α → γ} {g : β → γ'} (h : Option.Rel R x y)
    (hfg : ∀ a b, R a b → S (f a) (g b)) : Option.Rel S (x.map f) (y.map g) := by
  cases h with
  | none => exact .none
  | some h => exact .some (hfg _ _ h)

end Options

namespace Process

variable {σ τ α β γ δ : Type} {s : σ} {t : τ}

/-- Two processes that run alone, each from a state of its own, leave behind what is asked of
their results and of the states. -/
def Pair (p : Process σ α) (q : Process τ β) (s : σ) (t : τ) (post : α → β → σ → τ → Prop) :
    Prop :=
  post (p.run s).1 (q.run t).1 (p.run s).2 (q.run t).2

theorem pair_bind {p : Process σ α} {q : Process τ β} {f : α → Process σ γ} {g : β → Process τ δ}
    {post : γ → δ → σ → τ → Prop}
    (h : Pair p q s t fun a b s' t' => Pair (f a) (g b) s' t' post) :
    Pair (p >>= f) (q >>= g) s t post := by
  unfold Pair
  rw [run_bind, run_bind]
  exact h

theorem Pair.mono {p : Process σ α} {q : Process τ β} {post post' : α → β → σ → τ → Prop}
    (h : Pair p q s t post) (hpost : ∀ a b s' t', post a b s' t' → post' a b s' t') :
    Pair p q s t post' :=
  hpost _ _ _ _ h

end Process

namespace World

open Process (Pair)

variable {δ ε ε' α β : Type} {w v : World δ}

/-- One operation after another: what is asked holds where the first ones both fail, and goes on
to be shown of the second ones where the first ones both succeed. -/
theorem pair_op_bind {x y : Op δ ε α} {f g : α → Op δ ε β}
    {post : Except ε β → Except ε β → World δ → World δ → Prop}
    (h : Pair x.run y.run w v fun a b w' v' =>
      Except.Rel (fun e e' => post (.error e) (.error e') w' v')
        (fun a b => Pair (f a).run (g b).run w' v' post) a b) :
    Pair (x >>= f).run (y >>= g).run w v post := by
  unfold Pair at h ⊢
  rw [run_op_bind, run_op_bind]
  rcases hx : x.run.run w with ⟨a, w'⟩
  rcases hy : y.run.run v with ⟨b, v'⟩
  rw [hx, hy] at h
  cases h with
  | ok h => exact h
  | error h => exact h

theorem pair_orFail {cause : ε → ε'} {p q : Process (World δ) (Except ε α)}
    {post : Except ε' α → Except ε' α → World δ → World δ → Prop}
    (h : Pair p q w v fun a b => post (a.mapError cause) (b.mapError cause)) :
    Pair (orFail cause p).run (orFail cause q).run w v post := by
  unfold Pair
  rw [run_orFail, run_orFail]
  exact h

theorem pair_onStore {f g : Store → α × Store} {post : α → α → World δ → World δ → Prop}
    (h : post (f w.store).1 (g v.store).1 { w with store := (f w.store).2 }
      { v with store := (g v.store).2 }) : Pair (onStore f) (onStore g) w v post := h

theorem pair_onStoreNow {host : Host δ} {f g : Instant → Store → α × Store}
    {post : α → α → World δ → World δ → Prop}
    (h : post (f (host.clock w.readings) w.store).1 (g (host.clock v.readings) v.store).1
      { w with
        readings := w.readings + 1, store := (f (host.clock w.readings) w.store).2 }
      { v with
        readings := v.readings + 1, store := (g (host.clock v.readings) v.store).2 }) :
    Pair (onStoreNow host f) (onStoreNow host g) w v post := h

theorem pair_always {p q : Process (World δ) α}
    {post : Except ε α → Except ε α → World δ → World δ → Prop}
    (h : Pair p q w v fun a b => post (.ok a) (.ok b)) :
    Pair (always p : Op δ ε α).run (always q : Op δ ε α).run w v post := by
  unfold Pair
  rw [run_always, run_always]
  exact h

theorem pair_op_map {x y : Op δ ε α} {f : α → β}
    {post : Except ε β → Except ε β → World δ → World δ → Prop}
    (h : Pair x.run y.run w v fun a b => post (a.map f) (b.map f)) :
    Pair (f <$> x).run (f <$> y).run w v post := by
  refine Process.pair_bind (h.mono fun a b w' v' hpost => ?_)
  cases a <;> cases b <;> exact hpost

/-- What the operations are given that do not touch the world. -/
theorem pair_pure_bind {r : Except ε α} {cause : ε → ε'} {f g : α → Op δ ε' β}
    {post : Except ε' β → Except ε' β → World δ → World δ → Prop}
    (herror : ∀ e, r = .error e → post (.error (cause e)) (.error (cause e)) w v)
    (hok : ∀ a, r = .ok a → Pair (f a).run (g a).run w v post) :
    Pair (orFail cause (pure r) >>= f).run (orFail cause (pure r) >>= g).run w v post := by
  refine pair_op_bind (pair_orFail ?_)
  cases r with
  | error e => exact .error (herror e rfl)
  | ok a => exact .ok (hok a rfl)

end World

end TenantReports
