import Mathlib.Data.List.Forall2
import Mathlib.Data.Multiset.MapFold
import TenantReports.Process

/-!
# Processes that share a state

Two ways to say what a process does to a state that others change too. `Each` says of every step
that it is one of a relation, whatever state it finds. `Maintains` is for what takes several steps:
each process of a pool has a note of what it still has to do, and a condition on the state and all
the notes holds before and after every step. When a process ends, its note says that nothing is
left.

## Main definitions

* `Process.Each`, `Process.Keeps`: every step is one of a relation, or keeps a condition
* `Process.Maintains`: every step keeps a condition on the state and the notes
* `Process.Both`: two such conditions at once
* `Process.Ended`: no steps are left
* `Process.forget`: a process without its result
* `Process.afterStep`: what is left of a process

## Main results

* `Process.Each.bind`, `Process.Maintains.bind`: processes one after the other
* `Process.Keeps.run`, `Process.Maintains.run`: a process that runs alone
* `Process.Interleaved.keeps`, `Process.Interleaved.maintains`,
  `Process.Interleaved.maintains_labelled`: a pool, in any order of the steps
* `Process.Interleaved.exists_notes`: a pool of which all processes have ended
* `Process.interleaved_run`: one process of a pool runs to its end
* `Process.Interleaved.beside`: two processes and others, by what the steps of each preserve
-/

namespace TenantReports.Process

variable {σ α β γ : Type}

/-- A process whose result nobody waits for. -/
def forget (p : Process σ α) : Process σ Unit := do
  let _ ← p

@[simp] theorem run_forget (p : Process σ α) (s : σ) : (p.forget.run s).2 = (p.run s).2 := by
  rw [forget, run_bind]
  rfl

/-- A process after its first step, if there is one, and the state then. -/
def afterStep : Process σ α → σ → Process σ α × σ
  | .done a, s => (.done a, s)
  | .step act next, s => (next (act s).1, (act s).2)

/-- No steps are left. -/
def Ended (p : Process σ α) : Prop := ∃ a, p = .done a

/-- Where there are results, the processes have ended. -/
theorem ended_of_mem_results {results : List α} {p : Process σ α} (hp : p ∈ results.map .done) :
    p.Ended := by
  obtain ⟨a, -, rfl⟩ := List.mem_map.mp hp
  exact ⟨a, rfl⟩

theorem Interleaved.trans {ps qs rs : List (Process σ α)} {s t u : σ}
    (h : Interleaved ps s qs t) (h' : Interleaved qs t rs u) : Interleaved ps s rs u := by
  induction h with
  | refl => exact h'
  | step hstep _ ih => exact .step hstep (ih h')

theorem Interleaved.length_eq {ps qs : List (Process σ α)} {s t : σ} (h : Interleaved ps s qs t) :
    qs.length = ps.length := by
  induction h with
  | refl => rfl
  | step _ _ ih => simpa using ih

/-- One process of a pool takes all its steps while the others wait. -/
theorem interleaved_run (before after : List (Process σ α)) (p : Process σ α) (s : σ) :
    Interleaved (before ++ p :: after) s (before ++ .done (p.run s).1 :: after) (p.run s).2 := by
  induction p generalizing s with
  | done a => exact .refl _ _
  | step act next ih => exact .step (.mk act next s) (ih _ _)

/-- One process of a pool takes its first step. -/
theorem interleaved_afterStep (before after : List (Process σ α)) (p : Process σ α) (s : σ) :
    Interleaved (before ++ p :: after) s (before ++ (p.afterStep s).1 :: after)
      (p.afterStep s).2 := by
  cases p with
  | done a => exact .refl _ _
  | step act next => exact .step (.mk act next s) (.refl _ _)

/-- The first part of a process takes all its steps while all else waits. -/
theorem interleaved_bind {β : Type} (before after : List (Process σ β)) (p : Process σ α)
    (f : α → Process σ β) (s : σ) :
    Interleaved (before ++ (p >>= f) :: after) s (before ++ f (p.run s).1 :: after)
      (p.run s).2 := by
  change Interleaved (before ++ p.bind f :: after) s _ _
  induction p generalizing s with
  | done a => exact .refl _ _
  | step act next ih => exact .step (.mk act _ s) (ih _ _)

/-- The first process of a pool takes a step. -/
theorem Interleaved.head {p q : Process σ α} {ps qs : List (Process σ α)} {s t u : σ}
    (h : Step p s q t) (more : Interleaved (q :: ps) t qs u) : Interleaved (p :: ps) s qs u := by
  rw [← List.nil_append (p :: ps)]
  exact .step h more

/-- A pool takes its steps while one more process waits. -/
theorem Interleaved.cons {ps qs : List (Process σ α)} {s t : σ} (h : Interleaved ps s qs t)
    (p : Process σ α) : Interleaved (p :: ps) s (p :: qs) t := by
  induction h with
  | refl ps s => exact .refl _ _
  | @step before _ _ _ _ _ _ _ hstep _ ih =>
    rw [← List.cons_append] at ih ⊢
    exact .step hstep ih

/-- Of two processes the second one may run to its end before the first one begins. -/
theorem interleaved_second_first (p q : Process σ α) (s : σ) :
    ∃ ps, Interleaved [p, q] s ps (p.run (q.run s).2).2 ∧ ∀ p' ∈ ps, p'.Ended := by
  refine ⟨_, (interleaved_run [p] [] q s).trans
    (interleaved_run [] [.done (q.run s).1] p (q.run s).2), ?_⟩
  simp [Ended]

theorem not_step_done {a : α} {s t : σ} {q : Process σ α} : ¬ Step (.done a) s q t := nofun

/-- A step goes on with what it gave. -/
theorem Step.eq {act : σ → β × σ} {next : β → Process σ α} {s t : σ} {q : Process σ α}
    (h : Step (.step act next) s q t) : q = next (act s).1 ∧ t = (act s).2 := by
  cases h
  exact ⟨rfl, rfl⟩

/-- What the steps of two processes and of all others preserve, a pool of them preserves, in any
order of the steps. -/
theorem Interleaved.beside {P : Process σ α → Process σ α → List (Process σ α) → σ → Prop}
    (hfirst : ∀ {p q rs p' s t}, P p q rs s → Step p s p' t → P p' q rs t)
    (hsecond : ∀ {p q rs q' s t}, P p q rs s → Step q s q' t → P p q' rs t)
    (hothers : ∀ {p q before after r r' s t}, P p q (before ++ r :: after) s → Step r s r' t →
      P p q (before ++ r' :: after) t)
    {p q p' q' : Process σ α} {rs rs' : List (Process σ α)} {s t : σ}
    (h : Interleaved (p :: q :: rs) s (p' :: q' :: rs') t) (hs : P p q rs s) : P p' q' rs' t := by
  generalize hps : p :: q :: rs = ps at h
  generalize hqs : p' :: q' :: rs' = qs at h
  induction h generalizing p q rs with
  | refl ps s =>
    rw [← hqs, List.cons.injEq, List.cons.injEq] at hps
    obtain ⟨rfl, rfl, rfl⟩ := hps
    exact hs
  | @step before after p₁ q₁ s t u rest hstep more ih =>
    match before with
    | [] =>
      rw [List.nil_append, List.cons.injEq] at hps
      obtain ⟨rfl, rfl⟩ := hps
      exact ih (hfirst hs hstep) rfl hqs
    | [x] =>
      rw [List.singleton_append, List.cons.injEq, List.cons.injEq] at hps
      obtain ⟨rfl, rfl, rfl⟩ := hps
      exact ih (hsecond hs hstep) rfl hqs
    | x :: y :: before =>
      rw [List.cons_append, List.cons_append, List.cons.injEq, List.cons.injEq] at hps
      obtain ⟨rfl, rfl, rfl⟩ := hps
      exact ih (hothers hs hstep) rfl hqs

/-! ## Single steps -/

/-- Every step of a process is one of a relation, whatever state it finds. -/
def Each (R : σ → σ → Prop) : Process σ α → Prop
  | .done _ => True
  | .step act next => (∀ s, R s (act s).2) ∧ ∀ b, Each R (next b)

/-- Every step of a process keeps a condition. -/
def Keeps (I : σ → Prop) (p : Process σ α) : Prop := p.Each fun s t => I s → I t

section Each

variable {R R' : σ → σ → Prop} {I : σ → Prop} {p : Process σ α} {f : α → Process σ β}

@[simp] theorem each_done (a : α) : (done a : Process σ α).Each R := trivial

@[simp] theorem each_pure (a : α) : (pure a : Process σ α).Each R := trivial

@[simp] theorem each_atomically {act : σ → α × σ} :
    (atomically act).Each R ↔ ∀ s, R s (act s).2 := by
  constructor
  · intro h
    exact h.1
  · intro h
    exact ⟨h, fun _ => trivial⟩

theorem Each.bind (hp : p.Each R) (hf : ∀ a, (f a).Each R) : (p >>= f).Each R := by
  change (p.bind f).Each R
  induction p with
  | done a => exact hf a
  | step act next ih => exact ⟨hp.1, fun b => ih b (hp.2 b)⟩

theorem each_forget (hp : p.Each R) : p.forget.Each R := hp.bind fun _ => trivial

theorem Each.mono (hp : p.Each R) (h : ∀ s t, R s t → R' s t) : p.Each R' := by
  induction p with
  | done a => trivial
  | step act next ih => exact ⟨fun s => h _ _ (hp.1 s), fun b => ih b (hp.2 b)⟩

/-- A condition that is kept holds after a run. -/
theorem Keeps.run (hp : p.Keeps I) {s : σ} (hs : I s) : I (p.run s).2 := by
  induction p generalizing s with
  | done a => exact hs
  | step act next ih => exact ih _ (hp.2 _) (hp.1 s hs)

/-- Where all steps are in a transitive relation, so is a whole run. -/
theorem Each.run (hp : p.Each R) (hrefl : ∀ s, R s s)
    (htrans : ∀ {s t u}, R s t → R t u → R s u) (s : σ) : R s (p.run s).2 := by
  have hkeeps : p.Keeps (R s) := hp.mono fun t u htu hst => htrans hst htu
  exact hkeeps.run (hrefl s)

/-- **A pool whose processes keep a condition keeps it**, whatever the order of their steps. -/
theorem Interleaved.keeps {ps qs : List (Process σ α)} {s t : σ} (h : Interleaved ps s qs t)
    (hps : ∀ p ∈ ps, p.Keeps I) (hs : I s) : I t ∧ ∀ q ∈ qs, q.Keeps I := by
  induction h with
  | refl ps s => exact ⟨hs, hps⟩
  | @step before after p q s t u rest hstep more ih =>
    cases hstep with
    | mk act next s =>
      have hp := hps _ (List.mem_append_right before List.mem_cons_self)
      refine ih (fun r hr => ?_) (hp.1 s hs)
      rcases List.mem_append.mp hr with hr | hr
      · exact hps r (List.mem_append_left _ hr)
      rcases List.mem_cons.mp hr with rfl | hr
      · exact hp.2 _
      · exact hps r (List.mem_append_right _ (List.mem_cons_of_mem _ hr))

end Each

/-! ## Several steps -/

/-- The note of a process in the middle of a pool. -/
theorem forall₂_append_cons {R : γ → Process σ α → Prop} {gs : List γ}
    {before after : List (Process σ α)} {p : Process σ α}
    (h : List.Forall₂ R gs (before ++ p :: after)) :
    ∃ gsBefore g gsAfter, gs = gsBefore ++ g :: gsAfter ∧ List.Forall₂ R gsBefore before ∧
      R g p ∧ List.Forall₂ R gsAfter after := by
  have hrest := List.forall₂_drop_append gs before _ h
  obtain ⟨g, gsAfter, hp, hafter, hdrop⟩ := List.forall₂_cons_right_iff.mp hrest
  refine ⟨gs.take before.length, g, gsAfter, ?_, List.forall₂_take_append gs before _ h, hp, hafter⟩
  rw [← hdrop, List.take_append_drop]

/-- Every step of a process with the note `g` keeps a condition on the state and the notes of all
processes, and brings the note up to date. At the end, note and result are as `post` says. -/
def Maintains (Inv : Multiset γ → σ → Prop) (post : α → γ → Prop) : γ → Process σ α → Prop
  | g, .done a => post a g
  | g, .step act next => ∀ others s, Inv (g ::ₘ others) s →
      ∃ g', Inv (g' ::ₘ others) (act s).2 ∧ Maintains Inv post g' (next (act s).1)

section Maintains

variable {Inv : Multiset γ → σ → Prop} {post : α → γ → Prop} {post' : β → γ → Prop}
  {p : Process σ α} {f : α → Process σ β} {g : γ}

theorem maintains_pure {a : α} (h : post a g) : Maintains Inv post g (pure a : Process σ α) := h

theorem maintains_atomically {act : σ → α × σ}
    (h : ∀ others s, Inv (g ::ₘ others) s →
      ∃ g', Inv (g' ::ₘ others) (act s).2 ∧ post (act s).1 g') :
    Maintains Inv post g (atomically act) := h

theorem Maintains.bind (hp : Maintains Inv post g p)
    (hf : ∀ a g', post a g' → Maintains Inv post' g' (f a)) : Maintains Inv post' g (p >>= f) := by
  change Maintains Inv post' g (p.bind f)
  induction p generalizing g with
  | done a => exact hf a g hp
  | step act next ih =>
    intro others s hs
    obtain ⟨g', hinv, hnext⟩ := hp others s hs
    exact ⟨g', hinv, ih _ hnext⟩

theorem Maintains.mono {post' : α → γ → Prop} (hp : Maintains Inv post g p)
    (h : ∀ a g', post a g' → post' a g') : Maintains Inv post' g p := by
  induction p generalizing g with
  | done a => exact h a g hp
  | step act next ih =>
    intro others s hs
    obtain ⟨g', hinv, hnext⟩ := hp others s hs
    exact ⟨g', hinv, ih _ hnext⟩

/-- Steps that never touch what the condition is about need no note. -/
theorem Each.maintains {R : σ → σ → Prop} (hp : p.Each R)
    (hR : ∀ {gs s t}, R s t → Inv gs s → Inv gs t) (g : γ) :
    Maintains Inv (fun _ g' => g' = g) g p := by
  induction p with
  | done a => rfl
  | step act next ih => exact fun others s hs => ⟨g, hR (hp.1 s) hs, ih _ (hp.2 _)⟩

/-- A run beside processes that wait. -/
theorem Maintains.run (hp : Maintains Inv post g p) {others : Multiset γ} {s : σ}
    (hs : Inv (g ::ₘ others) s) :
    ∃ g', Inv (g' ::ₘ others) (p.run s).2 ∧ post (p.run s).1 g' := by
  induction p generalizing g s with
  | done a => exact ⟨g, hs, hp⟩
  | step act next ih =>
    obtain ⟨g', hinv, hnext⟩ := hp others s hs
    exact ih _ hnext hinv

/-- **A pool maintains its condition**, whatever the order of the steps: the notes are brought up
to date process by process. What is to hold at the end of a process may depend on a label of it,
which its note comes with. -/
theorem Interleaved.maintains_labelled {κ : Type} {post : κ → α → γ → Prop}
    {ps qs : List (Process σ α)} {s t : σ} (h : Interleaved ps s qs t) {ns : List (κ × γ)}
    (hps : List.Forall₂ (fun n p => Maintains Inv (post n.1) n.2 p) ns ps)
    (hs : Inv (ns.map Prod.snd : List γ) s) : ∃ ns' : List (κ × γ),
      ns'.map Prod.fst = ns.map Prod.fst ∧
      List.Forall₂ (fun n q => Maintains Inv (post n.1) n.2 q) ns' qs ∧
      Inv (ns'.map Prod.snd : List γ) t := by
  induction h generalizing ns with
  | refl ps s => exact ⟨ns, rfl, hps, hs⟩
  | @step before after p q s t u rest hstep more ih =>
    cases hstep with
    | mk act next s =>
      obtain ⟨nsBefore, ⟨k, g⟩, nsAfter, rfl, hbefore, hp, hafter⟩ := forall₂_append_cons hps
      -- the note of the process that takes the step, put first
      have hperm : ∀ note : γ,
          (((nsBefore ++ (k, note) :: nsAfter).map Prod.snd : List γ) : Multiset γ)
            = note ::ₘ (((nsBefore ++ nsAfter).map Prod.snd : List γ) : Multiset γ) := by
        intro note
        rw [Multiset.cons_coe, List.map_append, List.map_append, List.map_cons]
        exact Multiset.coe_eq_coe.mpr List.perm_middle
      rw [hperm g] at hs
      obtain ⟨g', hinv, hnext⟩ := hp _ s hs
      rw [← hperm g'] at hinv
      have hpool : List.Forall₂ (fun n p => Maintains Inv (post n.1) n.2 p)
          (nsBefore ++ (k, g') :: nsAfter) (before ++ next (act s).1 :: after) :=
        List.rel_append hbefore (.cons hnext hafter)
      obtain ⟨ns', hlabels, hqs, hend⟩ := ih hpool hinv
      refine ⟨ns', ?_, hqs, hend⟩
      rw [hlabels]
      simp

/-- **A pool of which all processes have ended**: each note is as it should be at the end, with the
label and the result of its process. -/
theorem Interleaved.exists_notes {κ : Type} {post : κ → α → γ → Prop} {labels : List κ}
    {p : κ → Process σ α} {start : κ → γ} {results : List α} {s t : σ}
    (h : Interleaved (labels.map p) s (results.map .done) t)
    (hp : ∀ k ∈ labels, Maintains Inv (post k) (start k) (p k))
    (hs : Inv (labels.map start : List γ) s) : ∃ ns : List (κ × γ),
      ns.map Prod.fst = labels ∧ List.Forall₂ (fun n a => post n.1 a n.2) ns results ∧
      Inv (ns.map Prod.snd : List γ) t := by
  have hstart : List.Forall₂ (fun n q => Maintains Inv (post n.1) n.2 q)
      (labels.map fun k => (k, start k)) (labels.map p) := by
    rw [List.forall₂_map_left_iff, List.forall₂_map_right_iff, List.forall₂_same]
    exact hp
  obtain ⟨ns, hlabels, hdone, hend⟩ := h.maintains_labelled hstart (by rwa [List.map_map])
  refine ⟨ns, ?_, List.forall₂_map_right_iff.mp hdone, hend⟩
  rw [hlabels, List.map_map]
  exact List.map_id labels

section Notes

variable {κ : Type} {R : κ × γ → α → Prop} {ns : List (κ × γ)} {results : List α}

/-- A note belongs to a process of the pool. -/
theorem exists_index_of_note (h : List.Forall₂ R ns results) {n : κ × γ} (hn : n ∈ ns) :
    ∃ (i : Nat) (a : α), (ns.map Prod.fst)[i]? = some n.1 ∧ results[i]? = some a ∧ R n a := by
  obtain ⟨i, hi, rfl⟩ := List.mem_iff_getElem.mp hn
  have hlength : i < results.length := h.length_eq ▸ hi
  refine ⟨i, results[i], ?_, List.getElem?_eq_getElem hlength, ?_⟩
  · rw [List.getElem?_map, List.getElem?_eq_getElem hi]
    rfl
  · exact (List.forall₂_iff_get.mp h).2 i hi hlength

/-- A process of the pool has a note. -/
theorem exists_note_of_index (h : List.Forall₂ R ns results) {i : Nat} {a : α}
    (ha : results[i]? = some a) :
    ∃ n ∈ ns, (ns.map Prod.fst)[i]? = some n.1 ∧ R n a := by
  obtain ⟨hlength, rfl⟩ := List.getElem?_eq_some_iff.mp ha
  have hi : i < ns.length := h.length_eq ▸ hlength
  refine ⟨ns[i], List.getElem_mem hi, ?_, (List.forall₂_iff_get.mp h).2 i hi hlength⟩
  rw [List.getElem?_map, List.getElem?_eq_getElem hi]
  rfl

end Notes

/-- The same where all processes end alike. -/
theorem Interleaved.maintains {ps qs : List (Process σ α)} {s t : σ}
    (h : Interleaved ps s qs t) {gs : List γ} (hps : List.Forall₂ (Maintains Inv post) gs ps)
    (hs : Inv gs s) : ∃ gs' : List γ, List.Forall₂ (Maintains Inv post) gs' qs ∧ Inv gs' t := by
  let alike : Unit → α → γ → Prop := fun _ => post
  have hunlabelled : List.Forall₂ (fun n p => Maintains Inv (alike n.1) n.2 p)
      (gs.map (Prod.mk ())) ps := List.forall₂_map_left_iff.mpr hps
  have hstart : Inv ((gs.map (Prod.mk ())).map Prod.snd : List γ) s := by
    rw [List.map_map]
    exact (List.map_id gs).symm ▸ hs
  obtain ⟨ns', -, hqs, hend⟩ := h.maintains_labelled hunlabelled hstart
  exact ⟨ns'.map Prod.snd, List.forall₂_map_left_iff.mpr hqs, hend⟩

/-- Where all processes of a pool have ended, their notes are as they should be at the end. -/
theorem exists_post_of_ended {gs : List γ} {qs : List (Process σ α)}
    (h : List.Forall₂ (Maintains Inv post) gs qs) (hended : ∀ q ∈ qs, q.Ended) :
    ∀ g ∈ gs, ∃ a, post a g := by
  induction h with
  | nil => simp
  | @cons g q gs qs hq _ ih =>
    obtain ⟨a, rfl⟩ := hended q List.mem_cons_self
    rw [List.forall_mem_cons]
    exact ⟨⟨a, hq⟩, ih fun q' hq' => hended q' (List.mem_cons_of_mem _ hq')⟩

end Maintains

/-! ## Two conditions at once -/

/-- Two conditions at once, each with notes of its own. -/
def Both {γ' : Type} (Inv : Multiset γ → σ → Prop) (Inv' : Multiset γ' → σ → Prop)
    (notes : Multiset (γ × γ')) (s : σ) : Prop :=
  Inv (notes.map Prod.fst) s ∧ Inv' (notes.map Prod.snd) s

section Both

variable {γ' : Type} {Inv : Multiset γ → σ → Prop} {Inv' : Multiset γ' → σ → Prop}
  {R : σ → σ → Prop} {p : Process σ α} {g : γ} {k : γ'}

theorem both_cons {n : γ × γ'} {others : Multiset (γ × γ')} {s : σ} :
    Both Inv Inv' (n ::ₘ others) s ↔
      Inv (n.1 ::ₘ others.map Prod.fst) s ∧ Inv' (n.2 ::ₘ others.map Prod.snd) s := by
  rw [Both, Multiset.map_cons, Multiset.map_cons]

/-- A process that maintains the first condition, by steps that the second one does not see. -/
theorem Maintains.first {post : α → γ → Prop} (hp : Maintains Inv post g p) (heach : p.Each R)
    (hR : ∀ {ks s t}, R s t → Inv' ks s → Inv' ks t) :
    Maintains (Both Inv Inv') (fun a n => post a n.1 ∧ n.2 = k) (g, k) p := by
  induction p generalizing g with
  | done a => exact ⟨hp, rfl⟩
  | step act next ih =>
    intro others s hs
    obtain ⟨hfirst, hsecond⟩ := both_cons.mp hs
    obtain ⟨g', hinv, hnext⟩ := hp _ s hfirst
    exact ⟨(g', k), both_cons.mpr ⟨hinv, hR (heach.1 s) hsecond⟩, ih _ hnext (heach.2 _)⟩

/-- A process that maintains the second condition, by steps that the first one does not see. -/
theorem Maintains.second {post : α → γ' → Prop} (hp : Maintains Inv' post k p) (heach : p.Each R)
    (hR : ∀ {gs s t}, R s t → Inv gs s → Inv gs t) :
    Maintains (Both Inv Inv') (fun a n => n.1 = g ∧ post a n.2) (g, k) p := by
  induction p generalizing k with
  | done a => exact ⟨rfl, hp⟩
  | step act next ih =>
    intro others s hs
    obtain ⟨hfirst, hsecond⟩ := both_cons.mp hs
    obtain ⟨k', hinv, hnext⟩ := hp _ s hsecond
    exact ⟨(g, k'), both_cons.mpr ⟨hR (heach.1 s) hfirst, hinv⟩, ih _ hnext (heach.2 _)⟩

end Both

end TenantReports.Process
