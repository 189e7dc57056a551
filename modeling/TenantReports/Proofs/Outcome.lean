import Mathlib.Data.List.Forall2

/-!
# Computations that may fail

A sequence of computations succeeds exactly if each of them does.

## Main results

* `exists_getElem?_of_forall₂`: what stands at one place of two lists
* `bind_eq_ok`, `map_eq_ok`, `mapError_eq_ok`: a computation after another one, or with another
  result or reason to fail
* `mapM_eq_ok`, `exists_mapM_ok`, `forall_of_mapM`, `forM_eq_ok`: one computation for each member of
  a list
* `map_bind_congr`, `map_mapM_congr`: computations that agree up to a projection of their results
* `Option.mapM_eq_some`: the same for computations that give no reason
-/

namespace TenantReports

/-- What stands at a place of a list is related to what stands there in the other one. -/
theorem exists_getElem?_of_forall₂ {α β : Type} {R : α → β → Prop} {as : List α} {bs : List β}
    (h : List.Forall₂ R as bs) {i : Nat} {a : α} (ha : as[i]? = some a) :
    ∃ b, bs[i]? = some b ∧ R a b := by
  induction h generalizing i with
  | nil => simp at ha
  | cons hab _ ih =>
    cases i with
    | zero =>
      obtain rfl := Option.some.inj ha
      exact ⟨_, rfl, hab⟩
    | succ i => exact ih ha

namespace Except

variable {ε α β γ δ : Type}

@[simp] theorem pure_eq_ok (a b : α) : (pure a : Except ε α) = .ok b ↔ a = b := by
  change Except.ok a = .ok b ↔ a = b
  rw [Except.ok.injEq]

@[simp] theorem bind_eq_ok (x : Except ε α) (f : α → Except ε β) (b : β) :
    (x >>= f) = .ok b ↔ ∃ a, x = .ok a ∧ f a = .ok b := by
  cases x with
  | error e => simp [bind, Except.bind]
  | ok a => simp [bind, Except.bind]

theorem map_eq_ok {x : Except ε α} {f : α → β} {b : β} :
    x.map f = .ok b ↔ ∃ a, x = .ok a ∧ f a = b := by
  cases x <;> simp [Except.map]

theorem mapError_eq_ok {ε' : Type} {cause : ε → ε'} {x : Except ε α} {a : α} :
    x.mapError cause = .ok a ↔ x = .ok a := by
  cases x <;> simp [Except.mapError]

/-- A computation for each member of a list gives the results of all, in order. -/
theorem mapM_eq_ok {f : α → Except ε β} {as : List α} {bs : List β} :
    as.mapM f = .ok bs ↔ List.Forall₂ (fun a b => f a = .ok b) as bs := by
  induction as generalizing bs with
  | nil => cases bs <;> simp
  | cons a as ih =>
    rw [List.mapM_cons, bind_eq_ok]
    simp only [bind_eq_ok, pure_eq_ok, ih]
    constructor
    · rintro ⟨b, hb, bs', hbs, rfl⟩
      exact .cons hb hbs
    · intro h
      cases h with
      | cons hb hbs => exact ⟨_, hb, _, hbs, rfl⟩

/-- It succeeds if it does for each. -/
theorem exists_mapM_ok {f : α → Except ε β} {as : List α} (h : ∀ a ∈ as, ∃ b, f a = .ok b) :
    ∃ bs, as.mapM f = .ok bs := by
  induction as with
  | nil => exact ⟨[], rfl⟩
  | cons a as ih =>
    obtain ⟨b, hb⟩ := h a List.mem_cons_self
    obtain ⟨bs, hbs⟩ := ih fun a' ha' => h a' (List.mem_cons_of_mem a ha')
    exact ⟨b :: bs, mapM_eq_ok.mpr (.cons hb (mapM_eq_ok.mp hbs))⟩

/-- What is made of each member of a list has what is made of any of them. -/
theorem forall_of_mapM {f : α → Except ε β} {as : List α} {bs : List β} {p : β → Prop}
    (h : as.mapM f = .ok bs) (hp : ∀ a ∈ as, ∀ b, f a = .ok b → p b) : ∀ b ∈ bs, p b := by
  have hforall := mapM_eq_ok.mp h
  clear h
  induction hforall with
  | nil => exact List.forall_mem_nil _
  | cons hab _ ih =>
    refine List.forall_mem_cons.mpr ⟨hp _ List.mem_cons_self _ hab, ih fun a ha => ?_⟩
    exact hp a (List.mem_cons_of_mem _ ha)

/-- A computation for each member of a list that gives nothing back succeeds if each does. -/
theorem forM_eq_ok {f : α → Except ε Unit} {as : List α} {u : Unit} :
    as.forM f = .ok u ↔ ∀ a ∈ as, f a = .ok () := by
  induction as with
  | nil => simp [pure, Except.pure]
  | cons a as ih =>
    rw [List.forM, bind_eq_ok, List.forall_mem_cons, ← ih]
    exact ⟨fun ⟨_, ha, has⟩ => ⟨ha, has⟩, fun ⟨ha, has⟩ => ⟨(), ha, has⟩⟩

/-- Computations that agree up to `f` go on to agree up to `g`, if what follows them does. -/
theorem map_bind_congr {f : α → γ} {g : β → δ} {x y : Except ε α} {k₁ k₂ : α → Except ε β}
    (hxy : x.map f = y.map f) (hk : ∀ a b, f a = f b → (k₁ a).map g = (k₂ b).map g) :
    (x >>= k₁).map g = (y >>= k₂).map g := by
  cases x with
  | error e =>
    cases y with
    | error e' =>
      cases hxy
      rfl
    | ok b => cases hxy
  | ok a =>
    cases y with
    | error e => cases hxy
    | ok b =>
      simp only [Except.map, Except.ok.injEq] at hxy
      exact hk a b hxy

theorem map_mapM_congr {f : β → γ} {F G : α → Except ε β} {as bs : List α}
    (h : List.Forall₂ (fun a b => (F a).map f = (G b).map f) as bs) :
    (as.mapM F).map (List.map f) = (bs.mapM G).map (List.map f) := by
  induction h with
  | nil => rfl
  | cons hab _ ih =>
    rw [List.mapM_cons, List.mapM_cons]
    refine map_bind_congr hab fun a b hab => ?_
    refine map_bind_congr ih fun as bs habs => ?_
    simp only [pure, Except.pure, Except.map, List.map_cons, hab, habs]

end Except

/-- A computation for each member of a list gives the results of all, in order. -/
theorem Option.mapM_eq_some {α β : Type} {f : α → Option β} {as : List α} {bs : List β} :
    as.mapM f = some bs ↔ List.Forall₂ (fun a b => f a = some b) as bs := by
  induction as generalizing bs with
  | nil => cases bs <;> simp
  | cons a as ih =>
    rw [List.mapM_cons, Option.bind_eq_bind, Option.bind_eq_some_iff]
    constructor
    · rintro ⟨b, hb, hrest⟩
      rw [Option.bind_eq_bind, Option.bind_eq_some_iff] at hrest
      obtain ⟨bs', hbs, heq⟩ := hrest
      cases heq
      exact .cons hb (ih.mp hbs)
    · intro h
      cases h with
      | cons hb hbs => exact ⟨_, hb, by rw [ih.mpr hbs]; rfl⟩

end TenantReports
