/-!
# Processes on shared state

A process is a sequence of steps, each of which reads and changes the state at once. Between two
steps other processes may run, so a process says all that matters of concurrent work. Running one
alone takes its steps one after the other.

## Main definitions

* `Process`: the processes
* `Process.atomically`: a process of one step
* `Process.run`: a process that runs alone
* `Process.Step`, `Process.Interleaved`: processes that share a state
-/

namespace TenantReports

/-- A process on a state of type `σ`: it has ended, or it takes a step and goes on with what the
step gave. -/
inductive Process (σ : Type) (α : Type) : Type 1 where
  | done (result : α)
  | step {β : Type} (act : σ → β × σ) (next : β → Process σ α)

namespace Process

variable {σ α β : Type}

/-- One process, then another with its result. -/
def bind : Process σ α → (α → Process σ β) → Process σ β
  | .done a, f => f a
  | .step act next, f => .step act fun b => (next b).bind f

instance : Monad (Process σ) where
  pure := .done
  bind := bind

/-- A process of one step. -/
def atomically (act : σ → α × σ) : Process σ α := .step act .done

/-- The result of a process that runs alone, and the state after it. -/
def run : Process σ α → σ → α × σ
  | .done a, s => (a, s)
  | .step act next, s =>
    let (b, s) := act s
    (next b).run s

@[simp] theorem run_done (a : α) (s : σ) : (done a : Process σ α).run s = (a, s) := rfl

@[simp] theorem run_pure (a : α) (s : σ) : (pure a : Process σ α).run s = (a, s) := rfl

@[simp] theorem run_atomically (act : σ → α × σ) (s : σ) : (atomically act).run s = act s := rfl

theorem run_bind (p : Process σ α) (f : α → Process σ β) (s : σ) :
    (p >>= f).run s = (f (p.run s).1).run (p.run s).2 := by
  change (p.bind f).run s = _
  induction p generalizing s with
  | done a => rfl
  | step act next ih => exact ih _ _

/-- One step of a process. -/
inductive Step : Process σ α → σ → Process σ α → σ → Prop
  | mk {β : Type} (act : σ → β × σ) (next : β → Process σ α) (s : σ) :
      Step (.step act next) s (next (act s).1) (act s).2

/-- Steps of several processes in any order. -/
inductive Interleaved : List (Process σ α) → σ → List (Process σ α) → σ → Prop
  | refl (ps : List (Process σ α)) (s : σ) : Interleaved ps s ps s
  | step {before after : List (Process σ α)} {p q : Process σ α} {s t u : σ}
      {rest : List (Process σ α)} (h : Step p s q t)
      (more : Interleaved (before ++ q :: after) t rest u) :
      Interleaved (before ++ p :: after) s rest u

end Process

end TenantReports
