import TenantReports.Proofs.Process.Pool
import TenantReports.Run.World

/-!
# Results of processes

What a process ends with depends on the states that its steps find, and beside other processes
those may be any that the pool comes to. `Ends` says what a process ends with if its steps find
only states of a set, and a pool gives the set of the states on its way.

## Main definitions

* `Process.Ends`: what a process ends with
* `Process.Visits`: the states on the way of a pool
* `World.Yields`: what an operation returns, or else fails with
* `World.Returns`: what an operation returns that does not fail

## Main results

* `Process.Interleaved.ends`: what the processes of a pool end with
* `World.yields_bind`, `World.yields_orFail`: operations step by step
* `World.returns_iff_yields`: what is returned, whatever an operation fails with
-/

namespace TenantReports

namespace Process

variable {σ α β : Type} {V : σ → Prop} {post post' : α → Prop} {p : Process σ α}
  {f : α → Process σ β}

/-- A process that finds only states of a set ends with a result that is as `post` says. -/
def Ends (V : σ → Prop) (post : α → Prop) : Process σ α → Prop
  | .done a => post a
  | .step act next => ∀ s, V s → Ends V post (next (act s).1)

theorem ends_pure {a : α} (h : post a) : (pure a : Process σ α).Ends V post := h

theorem ends_atomically {act : σ → α × σ} (h : ∀ s, V s → post (act s).1) :
    (atomically act).Ends V post := h

theorem ends_of_forall (h : ∀ a, post a) : p.Ends V post := by
  induction p with
  | done a => exact h a
  | step act next ih => exact fun s _ => ih _

theorem Ends.bind {post' : β → Prop} (hp : p.Ends V post)
    (hf : ∀ a, post a → (f a).Ends V post') : (p >>= f).Ends V post' := by
  change (p.bind f).Ends V post'
  induction p with
  | done a => exact hf a hp
  | step act next ih => exact fun s hs => ih _ (hp s hs)

theorem Ends.mono (hp : p.Ends V post) (h : ∀ a, post a → post' a) : p.Ends V post' := by
  induction p with
  | done a => exact h a hp
  | step act next ih => exact fun s hs => ih _ (hp s hs)

/-- A state on the way of a pool from its start to what is left of it. -/
def Visits (ps : List (Process σ α)) (s : σ) (rest : List (Process σ α)) (t v : σ) : Prop :=
  ∃ qs, Interleaved ps s qs v ∧ Interleaved qs v rest t

/-- **The processes of a pool end as they do where their steps find only states on the way of the
pool.** -/
theorem Interleaved.ends {ps qs : List (Process σ α)} {s t : σ} (h : Interleaved ps s qs t)
    (hV : ∀ v, Visits ps s qs t v → V v) {posts : List (α → Prop)}
    (hps : List.Forall₂ (fun post p => Ends V post p) posts ps) :
    List.Forall₂ (fun post q => Ends V post q) posts qs := by
  induction h generalizing posts with
  | refl => exact hps
  | @step before after p q s t u rest hstep more ih =>
    cases hstep with
    | mk act next s =>
      have hs : V s := hV s ⟨_, .refl _ _, .step (.mk act next s) more⟩
      obtain ⟨postsBefore, post, postsAfter, rfl, hbefore, hp, hafter⟩ :=
        forall₂_append_cons hps
      -- what is on the way after the step is on the way before it
      refine ih (fun v hv => ?_) (List.rel_append hbefore (.cons (hp s hs) hafter))
      obtain ⟨qs, hbegin, hend⟩ := hv
      exact hV v ⟨qs, .step (.mk act next s) hbegin, hend⟩

end Process

namespace World

variable {δ ε ε' α β : Type} {V : World δ → Prop} {post : α → Prop} {fail : ε → Prop}
  {x : Op δ ε α} {f : α → Op δ ε β}

/-! ## What operations return or fail with -/

/-- An answer is as `post` says, or an error as `fail` says. -/
def Answers (post : α → Prop) (fail : ε → Prop) : Except ε α → Prop
  | .ok a => post a
  | .error err => fail err

/-- An operation that finds only states of a set returns what is as `post` says, or fails with an
error that is as `fail` says. -/
def Yields (V : World δ → Prop) (post : α → Prop) (fail : ε → Prop) (x : Op δ ε α) : Prop :=
  Process.Ends V (Answers post fail) x.run

theorem yields_pure {a : α} (h : post a) : Yields V post fail (pure a : Op δ ε α) := h

theorem yields_bind (mid : α → Prop) {post : β → Prop} (hx : Yields V mid fail x)
    (hf : ∀ a, mid a → Yields V post fail (f a)) : Yields V post fail (x >>= f) := by
  unfold Yields
  rw [ExceptT.run_bind]
  refine Process.Ends.bind hx fun answer hanswer => ?_
  cases answer with
  | ok a => exact hf a hanswer
  | error err => exact Process.ends_pure hanswer

/-- What is done first does not matter to what is returned, but it may fail. -/
theorem yields_after {post : β → Prop} (hx : Yields V (fun _ => True) fail x)
    (hf : ∀ a, Yields V post fail (f a)) : Yields V post fail (x >>= f) :=
  yields_bind (fun _ => True) hx fun a _ => hf a

theorem yields_when {c : Prop} [Decidable c] {x : Op δ ε Unit} {f : Unit → Op δ ε α}
    (hx : Yields V (fun _ => True) fail x) (hf : ∀ u, Yields V post fail (f u)) :
    Yields V post fail (if c then x >>= f else f ()) := by
  split
  · exact yields_after hx hf
  · exact hf ()

theorem yields_map {g : α → β} {post : β → Prop}
    (hx : Yields V (fun a => post (g a)) fail x) : Yields V post fail (g <$> x) := by
  refine Process.Ends.bind hx fun answer hanswer => ?_
  cases answer <;> exact Process.ends_pure hanswer

theorem yields_always {p : Process (World δ) α} :
    Yields V (fun _ => True) fail (always p : Op δ ε α) :=
  Process.Ends.bind (Process.ends_of_forall fun _ => trivial) fun _ (_ : True) =>
    Process.ends_pure trivial

theorem yields_orFail {cause : ε' → ε} {p : Process (World δ) (Except ε' α)}
    (h : p.Ends V (Answers post fun err => fail (cause err))) :
    Yields V post fail (orFail cause p) := by
  refine h.bind fun answer hanswer => Process.ends_pure ?_
  cases answer <;> exact hanswer

/-- A step whose errors are all alike, and of which the result does not matter. -/
theorem yields_orFail_of_forall {cause : ε' → ε} {p : Process (World δ) (Except ε' α)}
    (h : ∀ err, fail (cause err)) : Yields V (fun _ => True) fail (orFail cause p) := by
  refine yields_orFail (Process.ends_of_forall fun answer => ?_)
  cases answer with
  | ok a => trivial
  | error err => exact h err

/-! ## What operations return -/

/-- An operation that finds only states of a set returns what is as `post` says, if it does not
fail. -/
def Returns (V : World δ → Prop) (post : α → Prop) (x : Op δ ε α) : Prop :=
  Process.Ends V (fun answer => ∀ a, answer = .ok a → post a) x.run

theorem answers_true_iff {answer : Except ε α} :
    Answers post (fun _ => True) answer ↔ ∀ a, answer = .ok a → post a := by
  cases answer <;> simp [Answers]

/-- What is returned, whatever an operation fails with. -/
theorem returns_iff_yields : Returns V post x ↔ Yields V post (fun _ => True) x :=
  ⟨fun h => h.mono fun _ => answers_true_iff.mpr, fun h => h.mono fun _ => answers_true_iff.mp⟩

theorem returns_of_forall (h : ∀ a, post a) : Returns V post x :=
  Process.ends_of_forall fun _ a _ => h a

theorem returns_pure {a : α} (h : post a) : Returns V post (pure a : Op δ ε α) :=
  returns_iff_yields.mpr (yields_pure h)

theorem returns_bind (mid : α → Prop) {post : β → Prop} (hx : Returns V mid x)
    (hf : ∀ a, mid a → Returns V post (f a)) : Returns V post (x >>= f) :=
  returns_iff_yields.mpr <| yields_bind mid (returns_iff_yields.mp hx) fun a ha =>
    returns_iff_yields.mp (hf a ha)

/-- What is done first does not matter to what is returned. -/
theorem returns_after {post : β → Prop} (hf : ∀ a, Returns V post (f a)) :
    Returns V post (x >>= f) :=
  returns_bind (fun _ => True) (returns_of_forall fun _ => trivial) fun a _ => hf a

theorem returns_when {c : Prop} [Decidable c] {x : Op δ ε Unit} {f : Unit → Op δ ε α}
    (hf : ∀ u, Returns V post (f u)) : Returns V post (if c then x >>= f else f ()) := by
  split
  · exact returns_after hf
  · exact hf ()

theorem returns_orFail {cause : ε → ε'} {p : Process (World δ) (Except ε α)}
    (h : p.Ends V fun answer => ∀ a, answer = .ok a → post a) : Returns V post (orFail cause p) :=
  returns_iff_yields.mpr <| yields_orFail <| h.mono fun _ => answers_true_iff.mpr

end World

end TenantReports
