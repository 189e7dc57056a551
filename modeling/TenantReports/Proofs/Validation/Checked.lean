import Mathlib.Data.List.Forall2
import Mathlib.Data.List.Nodup
import TenantReports.Validation.Checked

/-!
# Checks that find nothing wrong

A check is a value exactly if it has no problems. A combination of checks is a value exactly if
its parts are, and a check of all items of a list finds nothing wrong exactly if every item
passes, each with what the items before it left behind.

## Main definitions

* `Checked.Passes`: every item of a list passes a check, from left to right

## Main results

* `Checked.passes_checkAll`: without problems every item passes
* `Checked.Passes.forall₂`: each item passes to a value of its own, in order
* `Checked.Passes.prefix_of_getElem?`: an item passes with what the items before it left behind
* `Checked.Passes.fresh_keys`: a check that refuses repeated keys leaves distinct keys behind
-/

namespace TenantReports

namespace Checked

variable {α β σ : Type}

/-! ## Single checks -/

@[simp] theorem fail_ne_ok (p : Problem) (a : α) : (fail p : Checked α) ≠ .ok a := by
  simp [fail]

@[simp] theorem problems_eq_nil (c : Checked α) : c.problems = [] ↔ ∃ a, c = .ok a := by
  cases c <;> simp

@[simp] theorem pure_eq_ok (a : α) : (pure a : Checked α) = .ok a := rfl

@[simp] theorem seq_eq_ok (f : Checked (α → β)) (a : Checked α) (b : β) :
    f <*> a = .ok b ↔ ∃ g x, f = .ok g ∧ a = .ok x ∧ g x = b := by
  change both f a = .ok b ↔ _
  cases f <;> cases a <;> simp [both]

@[simp] theorem map_eq_ok (f : α → β) (a : Checked α) (b : β) :
    f <$> a = .ok b ↔ ∃ x, a = .ok x ∧ f x = b := by
  change both (.ok f) a = .ok b ↔ _
  cases a <;> simp [both]

@[simp] theorem andThen_eq_ok (a : Checked α) (check : α → Checked β) (b : β) :
    a.andThen check = .ok b ↔ ∃ x, a = .ok x ∧ check x = .ok b := by
  cases a <;> simp [andThen]

@[simp] theorem require_eq_ok (condition : Bool) (p : Problem) (u : Unit) :
    require condition p = .ok u ↔ condition = true := by
  cases condition <;> simp [require]

@[simp] theorem ofOption_eq_ok (o : Option α) (p : Problem) (a : α) :
    ofOption o p = .ok a ↔ o = some a := by
  cases o <;> simp [ofOption]

/-- All of a list of checks find nothing wrong: each is a value, in order. -/
theorem all_eq_ok (checks : List (Checked α)) (values : List α) :
    all checks = .ok values ↔ List.Forall₂ (fun c a => c = .ok a) checks values := by
  induction checks generalizing values with
  | nil => cases values <;> simp [all]
  | cons c rest ih =>
    -- a check in front adds its value, or its problems
    have step : all (c :: rest) = .ok values ↔
        ∃ a as, c = .ok a ∧ all rest = .ok as ∧ a :: as = values := by
      cases c <;> cases h : all rest <;> simp [all, both, h]
    rw [step]
    constructor
    · rintro ⟨a, as, hc, hrest, rfl⟩
      exact .cons hc ((ih as).mp hrest)
    · intro h
      cases h with
      | @cons _ a _ as hc hrest => exact ⟨a, as, hc, (ih as).mpr hrest, rfl⟩

/-- A member on the right is related to one on the left. -/
theorem exists_left_of_mem {R : α → β → Prop} {as : List α} {bs : List β}
    (h : List.Forall₂ R as bs) {b : β} (hb : b ∈ bs) : ∃ a ∈ as, R a b := by
  induction h with
  | nil => cases hb
  | cons hab _ ih =>
    rcases List.mem_cons.mp hb with rfl | hb
    · exact ⟨_, List.mem_cons_self, hab⟩
    · obtain ⟨a, ha, hab⟩ := ih hb
      exact ⟨a, List.mem_cons_of_mem _ ha, hab⟩

/-! ## Checks of all items of a list -/

/-- Every item of a list passes a check, from left to right: the values found, in order, and
what the last item left behind. -/
inductive Passes (check : Nat → Json → σ → Checked α × σ) :
    Nat → List Json → σ → List α → σ → Prop
  | nil (i : Nat) (s : σ) : Passes check i [] s [] s
  | cons {i : Nat} {j : Json} {items : List Json} {s s' s'' : σ} {a : α} {as : List α} :
    check i j s = (.ok a, s') → Passes check (i + 1) items s' as s'' →
      Passes check i (j :: items) s (a :: as) s''

variable {check : Nat → Json → σ → Checked α × σ}

/-- **Without problems every item passes.** -/
theorem passes_checkAll {i : Nat} {items : List Json} {s : σ}
    (h : (checkAll check i items s).1.flatMap problems = []) :
    Passes check i items s ((checkAll check i items s).1.filterMap value?)
      (checkAll check i items s).2 := by
  induction items generalizing i s with
  | nil => exact .nil i s
  | cons j items ih =>
    simp only [checkAll, List.flatMap_cons, List.append_eq_nil_iff, problems_eq_nil] at h
    obtain ⟨⟨a, ha⟩, hrest⟩ := h
    -- the first item passes, and the others with what it left behind
    have hj : check i j s = (.ok a, (check i j s).2) := by rw [← ha]
    simp only [checkAll, ha, List.filterMap_cons, value?_ok]
    exact .cons hj (ih hrest)

namespace Passes

variable {i : Nat} {items : List Json} {s s' : σ} {values : List α}

/-- Each item passes to a value of its own, in order. -/
theorem forall₂ {R : Json → α → Prop} (h : Passes check i items s values s')
    (step : ∀ i j s a s', check i j s = (.ok a, s') → R j a) :
    List.Forall₂ R items values := by
  induction h with
  | nil => exact .nil
  | cons hj _ ih => exact .cons (step _ _ _ _ _ hj) ih

/-- As many items as values. -/
theorem length_eq (h : Passes check i items s values s') : items.length = values.length :=
  (h.forall₂ (R := fun _ _ => True) fun _ _ _ _ _ _ => trivial).length_eq

theorem items_eq_nil (h : Passes check i items s values s') : items = [] ↔ values = [] := by
  rw [← List.length_eq_zero_iff, h.length_eq, List.length_eq_zero_iff]

/-- A check that refuses the keys it has seen, and adds the key of each value to them, leaves
behind the keys of all values; they stay distinct. -/
theorem fresh_keys {κ : Type} {check : Nat → Json → List κ → Checked α × List κ}
    {seen seen' : List κ} (key : α → κ) (h : Passes check i items seen values seen')
    (step : ∀ i j s a s', check i j s = (.ok a, s') → key a ∉ s ∧ s' = s ++ [key a]) :
    seen' = seen ++ values.map key ∧ (seen.Nodup → seen'.Nodup) := by
  -- over the run: each step adds one key, which is not there yet
  induction h with
  | nil => exact ⟨by simp, id⟩
  | cons hj _ ih =>
    obtain ⟨hfresh, rfl⟩ := step _ _ _ _ _ hj
    obtain ⟨heq, hnodup⟩ := ih
    refine ⟨by simp [heq], fun hseen => hnodup ?_⟩
    exact List.Nodup.append hseen (List.nodup_singleton _) (by simpa using hfresh)

/-- From no keys at all, the keys that are left behind are those of the values. -/
theorem nodup_keys {κ : Type} {check : Nat → Json → List κ → Checked α × List κ}
    {seen' : List κ} (key : α → κ) (h : Passes check i items [] values seen')
    (step : ∀ i j s a s', check i j s = (.ok a, s') → key a ∉ s ∧ s' = s ++ [key a]) :
    (values.map key).Nodup := by
  obtain ⟨hkeys, hnodup⟩ := h.fresh_keys key step
  rw [List.nil_append] at hkeys
  rw [← hkeys]
  exact hnodup List.nodup_nil

/-- A value is that of the item at its place, which passes with what the items before it left
behind. -/
theorem prefix_of_getElem? {n : Nat} {a : α} (h : Passes check i items s values s')
    (ha : values[n]? = some a) :
    ∃ j before after, items[n]? = some j ∧
      Passes check i (items.take n) s (values.take n) before ∧
      check (i + n) j before = (.ok a, after) := by
  induction h generalizing n with
  | nil => simp at ha
  | @cons i j items s s₁ s₂ b as hj _ ih =>
    cases n with
    | zero =>
      -- the first item, with nothing before it
      obtain rfl : b = a := by simpa using ha
      exact ⟨j, s, s₁, rfl, .nil i s, hj⟩
    | succ n =>
      obtain ⟨j', before, after, hget, hpasses, hcheck⟩ := ih (by simpa using ha)
      refine ⟨j', before, after, by simpa using hget, .cons hj hpasses, ?_⟩
      rw [← hcheck]
      congr 1
      omega

/-- A value passed its check. -/
theorem check_of_mem {a : α} (h : Passes check i items s values s') (ha : a ∈ values) :
    ∃ n j before after, check n j before = (.ok a, after) := by
  obtain ⟨n, hn⟩ := List.mem_iff_getElem?.mp ha
  obtain ⟨j, before, after, -, -, hcheck⟩ := h.prefix_of_getElem? hn
  exact ⟨_, j, before, after, hcheck⟩

end Passes

end Checked

end TenantReports
