import TenantReports.Validation.Problem

/-!
# Checked values

The outcome of a check is a value or at least one problem. Checks made side by side keep all
their problems, in order. The outcome of a section is what is left of its items, together with
all problems of the section.

## Main definitions

* `Checked α`: a value, or one or more problems
* `Checked.checkAll`: a check of each item of a list
* `Section α`: the items that passed, and the problems
-/

namespace TenantReports

/-- A value, or one or more problems. -/
inductive Checked (α : Type) where
  | ok (value : α)
  | bad (first : Problem) (rest : List Problem)

namespace Checked

variable {α β : Type}

/-- The value, if nothing is wrong. -/
def value? : Checked α → Option α
  | .ok a => some a
  | .bad _ _ => none

/-- The problems; none if there is a value. -/
def problems : Checked α → List Problem
  | .ok _ => []
  | .bad p ps => p :: ps

/-- One problem. -/
def fail (p : Problem) : Checked α := .bad p []

/-- The first check's value if the second finds nothing wrong, else the problems of both. -/
def both (f : Checked (α → β)) (a : Checked α) : Checked β :=
  match f, a with
  | .ok f, .ok a => .ok (f a)
  | .ok _, .bad p ps => .bad p ps
  | .bad p ps, a => .bad p (ps ++ a.problems)

instance : Applicative Checked where
  pure := .ok
  seq f a := both f (a ())

/-- A value if the condition holds, else one problem. -/
def require (condition : Bool) (p : Problem) : Checked Unit :=
  if condition then .ok () else fail p

/-- What a check of a value that may be missing makes of it. -/
def ofOption (a : Option α) (p : Problem) : Checked α :=
  match a with
  | some a => .ok a
  | none => fail p

/-- A check that needs the value of another. Without the value it finds nothing more. -/
def andThen (a : Checked α) (check : α → Checked β) : Checked β :=
  match a with
  | .ok a => check a
  | .bad p ps => .bad p ps

/-- All values, or all problems in order. -/
def all : List (Checked α) → Checked (List α)
  | [] => .ok []
  | a :: rest => both (both (.ok List.cons) a) (all rest)

@[simp] theorem value?_ok (a : α) : (ok a).value? = some a := rfl

@[simp] theorem value?_bad (p : Problem) (ps : List Problem) :
    (bad p ps : Checked α).value? = none := rfl

@[simp] theorem problems_ok (a : α) : (ok a).problems = [] := rfl

@[simp] theorem problems_bad (p : Problem) (ps : List Problem) :
    (bad p ps : Checked α).problems = p :: ps := rfl

/-- The outcomes of a check of each item, from left to right. The check sees the index of its
item and what earlier items left behind. -/
def checkAll {σ : Type} (check : Nat → Json → σ → Checked α × σ) :
    Nat → List Json → σ → List (Checked α) × σ
  | _, [], s => ([], s)
  | i, j :: js, s =>
    let (a, s) := check i j s
    let (rest, s) := checkAll check (i + 1) js s
    (a :: rest, s)

end Checked

/-- The items of a section that passed, and all problems of the section. -/
structure Section (α : Type) where
  problems : List Problem
  values : List α

namespace Section

variable {α : Type}

/-- A section's items as they were checked, with problems of the section before and after
theirs. -/
def ofItems (before : List Problem) (items : List (Checked α)) (after : List Problem) :
    Section α :=
  ⟨before ++ items.flatMap Checked.problems ++ after, items.filterMap Checked.value?⟩

end Section

end TenantReports
