import TenantReports.Proofs.Process.Pool
import TenantReports.Run.World

/-!
# Histories

The history of a pool lists the steps that its processes have taken, each with the label of its
process and with the states before and after it. What a process does to the state may depend on what
it has found before, so it is told with a note that the steps of the process bring up to date.
Unlike the notes of `Maintains`, it is not part of a condition on the state.

## Main definitions

* `Process.Event`: a step of a process with a label
* `Process.History`: the steps that a pool has taken, and what is left of it
* `Process.Follows`: what the steps of a process do, told with a note

## Main results

* `Process.Interleaved.exists_history`: whatever a pool does has a history
* `Process.History.invariant`: what every step preserves, given the steps before it
* `World.follows_op_bind`, `World.follows_orFail`: operations step by step
-/

namespace TenantReports

namespace Process

variable {κ σ α β γ : Type}

/-- A step of a process with a label: the states before and after it. -/
structure Event (κ σ : Type) where
  label : κ
  before : σ
  after : σ

/-- The steps that a pool of labelled processes has taken, the first one first, what is left of the
pool, and the state that it has come to. -/
inductive History (ps : List (κ × Process σ α)) (s : σ) :
    List (Event κ σ) → List (κ × Process σ α) → σ → Prop
  | start : History ps s [] ps s
  | snoc {past : List (Event κ σ)} {before after : List (κ × Process σ α)} {k : κ}
      {p q : Process σ α} {t u : σ} (h : History ps s past (before ++ (k, p) :: after) t)
      (hstep : Step p t q u) : History ps s (past ++ [⟨k, t, u⟩]) (before ++ (k, q) :: after) u

/-- **Whatever a pool does has a history.** -/
theorem Interleaved.exists_history {labelled : List (κ × Process σ α)} {ps : List (Process σ α)}
    {s t : σ} (h : Interleaved (labelled.map Prod.snd) s ps t) :
    ∃ events rest, rest.map Prod.snd = ps ∧ History labelled s events rest t := by
  -- the steps so far are those of a part of the history
  have hmore : ∀ {qs ps : List (Process σ α)} {u t : σ}, Interleaved qs u ps t →
      ∀ past middle, middle.map Prod.snd = qs → History labelled s past middle u →
        ∃ events rest, rest.map Prod.snd = ps ∧ History labelled s events rest t := by
    intro qs ps u t h
    induction h with
    | refl => exact fun past middle hmiddle hpast => ⟨past, middle, hmiddle, hpast⟩
    | @step before after p q s t u rest hstep more ih =>
      intro past middle hmiddle hpast
      obtain ⟨before', tail, rfl, rfl, htail⟩ := List.map_eq_append_iff.mp hmiddle
      obtain ⟨⟨k, _⟩, after', rfl, rfl, rfl⟩ := List.map_eq_cons_iff.mp htail
      exact ih _ _ (by simp) (hpast.snoc hstep)
  exact hmore h [] labelled rfl .start

/-! ## Notes -/

/-- Every step of a process does what `R` says of its note, and brings the note up to date. At the
end, note and result are as `post` says. -/
def Follows (R : γ → σ → σ → γ → Prop) (post : γ → α → Prop) : γ → Process σ α → Prop
  | g, .done a => post g a
  | g, .step act next => ∀ s, ∃ g', R g s (act s).2 g' ∧ Follows R post g' (next (act s).1)

section Follows

variable {R : γ → σ → σ → γ → Prop} {post : γ → α → Prop} {post' : γ → β → Prop} {g : γ}
  {p : Process σ α} {f : α → Process σ β}

theorem follows_pure {a : α} (h : post g a) : Follows R post g (pure a : Process σ α) := h

theorem follows_atomically {act : σ → α × σ}
    (h : ∀ s, ∃ g', R g s (act s).2 g' ∧ post g' (act s).1) :
    Follows R post g (atomically act) := h

theorem Follows.bind (hp : Follows R post g p) (hf : ∀ a g', post g' a → Follows R post' g' (f a)) :
    Follows R post' g (p >>= f) := by
  change Follows R post' g (p.bind f)
  induction p generalizing g with
  | done a => exact hf a g hp
  | step act next ih =>
    intro s
    obtain ⟨g', hstep, hnext⟩ := hp s
    exact ⟨g', hstep, ih _ hnext⟩

/-- Steps that need no note. -/
theorem Each.follows {S : σ → σ → Prop} (hp : p.Each S) (hS : ∀ s t, S s t → R g s t g) :
    Follows R (fun g' _ => g' = g) g p := by
  induction p with
  | done a => rfl
  | step act next ih => exact fun s => ⟨g, hS _ _ (hp.1 s), ih _ (hp.2 _)⟩

end Follows

/-- **What every step preserves, a pool preserves**, where a step may depend on the steps before it.
`Inv` is a condition on the state, and `Known` on the note of each process. -/
theorem History.invariant {ps qs : List (κ × Process σ α)} {events : List (Event κ σ)} {s t : σ}
    (R : κ → γ → σ → σ → γ → Prop) (post : κ → γ → α → Prop) (start : γ)
    (Inv : List (Event κ σ) → σ → Prop) (Known : List (Event κ σ) → κ → γ → Prop)
    (h : History ps s events qs t) (hps : ∀ x ∈ ps, Follows (R x.1) (post x.1) start x.2)
    (hstart : Inv [] s) (hnote : ∀ k, Known [] k start)
    (hmore : ∀ past e k g, Known past k g → Known (past ++ [e]) k g)
    (hstep : ∀ past k g t u g', R k g t u g' → Inv past t → Known past k g →
      Inv (past ++ [⟨k, t, u⟩]) u ∧ Known (past ++ [⟨k, t, u⟩]) k g') :
    Inv events t ∧ ∀ x ∈ qs, ∃ g, Follows (R x.1) (post x.1) g x.2 ∧ Known events x.1 g := by
  induction h with
  | start => exact ⟨hstart, fun x hx => ⟨start, hps x hx, hnote x.1⟩⟩
  | @snoc past before after k p q t u _ htaken ih =>
    obtain ⟨hinv, hnotes⟩ := ih
    cases htaken with
    | mk act next t =>
      obtain ⟨g, hp, hg⟩ := hnotes (k, .step act next) (by simp)
      obtain ⟨g', hact, hnext⟩ := hp t
      obtain ⟨hinv', hg'⟩ := hstep past k g _ _ g' hact hinv hg
      refine ⟨hinv', fun x hx => ?_⟩
      -- the other processes have not moved, and their notes stay
      have hother : ∀ x, (x ∈ before ∨ x ∈ after) → ∃ g, Follows (R x.1) (post x.1) g x.2 ∧
          Known (past ++ [⟨k, t, (act t).2⟩]) x.1 g := by
        intro x hx
        obtain ⟨gx, hpx, hgx⟩ := hnotes x (by
          rw [List.mem_append, List.mem_cons]
          exact hx.imp_right .inr)
        exact ⟨gx, hpx, hmore _ _ _ _ hgx⟩
      rw [List.mem_append, List.mem_cons] at hx
      rcases hx with hx | rfl | hx
      · exact hother x (.inl hx)
      · exact ⟨g', hnext, hg'⟩
      · exact hother x (.inr hx)

end Process

namespace World

open Process (Follows)

variable {δ ε ε' α β γ : Type} {R : γ → World δ → World δ → γ → Prop} {g : γ}

theorem follows_orFail {cause : ε → ε'} {p : Process (World δ) (Except ε α)}
    {post : γ → Except ε' α → Prop} (h : Follows R (fun g a => post g (a.mapError cause)) g p) :
    Follows R post g (orFail cause p).run :=
  h.bind fun _ _ hpost => hpost

/-- One operation after another: where the first one fails, its note is the last one. -/
theorem follows_op_bind {x : Op δ ε α} {f : α → Op δ ε β} {post : γ → Except ε β → Prop}
    (mid : γ → Except ε α → Prop) (hx : Follows R mid g x.run)
    (herror : ∀ err g', mid g' (.error err) → post g' (.error err))
    (hok : ∀ a g', mid g' (.ok a) → Follows R post g' (f a).run) :
    Follows R post g (x >>= f).run := by
  rw [ExceptT.run_bind]
  refine Follows.bind hx fun r g' hmid => ?_
  cases r with
  | ok a => exact hok a g' hmid
  | error err => exact herror err g' hmid

end World

end TenantReports
