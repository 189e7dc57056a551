import TenantReports.Proofs.Validation.Checked
import TenantReports.Validation.Validator

/-!
# Where problems are

Whatever is wrong with an item of a draft is told at the place of the item: no check reports a
problem of another item, nor one of a whole section. So the problems of a list, checked item by
item, come in the order of the items.

## Main definitions

* `Checked.Located`: all problems of a check are at one place

## Main results

* `located_checkJoin`, `located_checkColumn`, `located_checkGroup`, `located_checkAggregation`,
  `located_checkFilter`, `located_checkSort`: the check of an item tells problems of that item
* `Checked.exists_place_of_checkAll`, `Checked.pairwise_checkAll`: the problems of a list of items
-/

namespace TenantReports

namespace Checked

variable {α β σ : Type} {place : Place}

/-! ## Problems of combined checks -/

theorem problems_seq (f : Checked (α → β)) (a : Checked α) :
    (f <*> a).problems = f.problems ++ a.problems := by
  change (both f a).problems = _
  cases f <;> cases a <;> simp [both]

theorem problems_map (f : α → β) (a : Checked α) : (f <$> a).problems = a.problems := by
  change (both (.ok f) a).problems = _
  cases a <;> simp [both]

/-- All problems of a check are at one place. -/
def Located (place : Place) (c : Checked α) : Prop := ∀ p ∈ c.problems, p.place? = some place

theorem located_ok (a : α) : (ok a).Located place := by simp [Located]

theorem located_fail {p : Problem} (h : p.place? = some place) :
    (fail p : Checked α).Located place := by
  simpa [Located, fail] using h

theorem Located.seq {f : Checked (α → β)} {a : Checked α} (hf : f.Located place)
    (ha : a.Located place) : (f <*> a).Located place := by
  intro p hp
  rw [problems_seq] at hp
  exact (List.mem_append.mp hp).elim (hf p) (ha p)

theorem Located.map {f : α → β} {a : Checked α} (ha : a.Located place) :
    (f <$> a).Located place := by
  intro p hp
  rw [problems_map] at hp
  exact ha p hp

theorem Located.andThen {a : Checked α} {check : α → Checked β} (ha : a.Located place)
    (hcheck : ∀ x, (check x).Located place) : (a.andThen check).Located place := by
  cases a with
  | ok x => exact hcheck x
  | bad p ps => exact ha

theorem located_require {condition : Bool} {p : Problem} (h : p.place? = some place) :
    (require condition p).Located place := by
  cases condition with
  | true => exact located_ok ()
  | false => exact located_fail h

theorem located_ofOption {o : Option α} {p : Problem} (h : p.place? = some place) :
    (ofOption o p).Located place := by
  cases o with
  | some a => exact located_ok a
  | none => exact located_fail h

theorem located_all {checks : List (Checked α)} (h : ∀ c ∈ checks, c.Located place) :
    (all checks).Located place := by
  induction checks with
  | nil => exact located_ok []
  | cons c rest ih =>
    have hfirst : c.Located place := h c List.mem_cons_self
    have hrest := ih fun c' hc' => h c' (List.mem_cons_of_mem c hc')
    have hcons : ((fun a as => a :: as) <$> c <*> all rest).Located place := hfirst.map.seq hrest
    exact hcons

/-! ## Problems of all items of a list -/

variable {check : Nat → Json → σ → Checked α × σ} {at_ : Nat → Place} {i : Nat}
  {items : List Json} {s : σ}

/-- A problem of a list of items is at the place of one of them. -/
theorem exists_place_of_checkAll (h : ∀ i j s, (check i j s).1.Located (at_ i)) {p : Problem}
    (hp : p ∈ (checkAll check i items s).1.flatMap problems) :
    ∃ n, i ≤ n ∧ p.place? = some (at_ n) := by
  induction items generalizing i s with
  | nil => cases hp
  | cons j items ih =>
    rcases List.mem_append.mp hp with hfirst | hrest
    · exact ⟨i, Nat.le_refl i, h i j s p hfirst⟩
    · obtain ⟨n, hn, hplace⟩ := ih hrest
      exact ⟨n, Nat.le_of_succ_le hn, hplace⟩

/-- **The problems of a list of items come in the order of the items.** -/
theorem pairwise_checkAll (h : ∀ i j s, (check i j s).1.Located (at_ i)) :
    ((checkAll check i items s).1.flatMap problems).Pairwise fun p q =>
      ∃ m n, m ≤ n ∧ p.place? = some (at_ m) ∧ q.place? = some (at_ n) := by
  induction items generalizing i s with
  | nil => exact .nil
  | cons j items ih =>
    refine List.pairwise_append.mpr ⟨?_, ih, fun p hp q hq => ?_⟩
    -- those of one item are all at its place, and those of the others at later ones
    · exact List.pairwise_of_forall_mem_list fun p hp q hq =>
        ⟨i, i, Nat.le_refl i, h i j s p hp, h i j s q hq⟩
    · obtain ⟨n, hn, hplace⟩ := exists_place_of_checkAll h hq
      exact ⟨i, n, Nat.le_of_succ_le hn, h i j s p hp, hplace⟩

end Checked

open Checked

variable {scope : Scope} {place : Place} {entries : List (String × Json)}

/-! ## Parts of items -/

theorem located_resolve {name : String} : (scope.resolve place name).Located place := by
  unfold Scope.resolve
  split
  next => exact located_fail rfl
  next r _ =>
    split
    next => exact located_ok r
    next => exact located_fail rfl

theorem located_requiredText {key : String} :
    (requiredText place entries key).Located place := located_ofOption rfl

theorem located_wordOr {α : Type} [Named α] {what : String} {default : α} {given : Option Json} :
    (wordOr place what default given).Located place := by
  cases given with
  | none => exact located_ok default
  | some j => exact located_ofOption rfl

theorem located_permitAggregate {function : Aggregate} {r : Resolved} :
    (permitAggregate place function r).Located place := located_require rfl

/-! ## Joins -/

theorem located_joinTable : (joinTable scope place entries).Located place := by
  refine located_requiredText.andThen fun table => ?_
  split
  next => exact located_fail rfl
  next =>
    split
    next => exact located_fail rfl
    next => exact located_ok table

theorem located_joinCondition {earlier : List String} {table : String} {given : Option Json} :
    (joinCondition scope earlier table place given).Located place := by
  cases given with
  | none => exact located_ofOption rfl
  | some j =>
    unfold joinCondition statedCondition
    split
    next h => cases h
    next h =>
      split
      next => exact located_resolve.map.seq located_resolve
      next => exact located_fail rfl

theorem located_checkJoin {c : Catalog} (i : Nat) (item : Json) (earlier : List String) :
    (checkJoin c i item earlier).1.Located (.join i) := by
  unfold checkJoin
  cases item with
  | object entries =>
    dsimp only
    have htable : (joinTable ⟨c, earlier⟩ (.join i) entries).Located (.join i) :=
      located_joinTable
    split
    next p ps h =>
      rw [h] at htable
      exact htable
    next => exact located_wordOr.map.seq located_joinCondition
  | _ => exact located_fail rfl

/-! ## Aggregations -/

theorem located_checkGroup (i : Nat) (item : Json) (u : Unit) :
    (checkGroup scope i item u).1.Located (.group i) := by
  unfold checkGroup
  cases item with
  | string name => exact located_resolve.map
  | _ => exact located_fail rfl

theorem located_aggregateFunction : (aggregateFunction place entries).Located place := by
  unfold aggregateFunction
  split
  next => exact located_fail rfl
  next => exact located_ofOption rfl

theorem located_aggregateAlias {function : Option Aggregate} {field : Option Resolved} :
    (aggregateAlias place entries function field).Located place := by
  unfold aggregateAlias
  split
  next => exact located_ofOption rfl
  next => exact located_ok _

theorem located_checkAggregation (i : Nat) (item : Json) (aliases : List String) :
    (checkAggregation scope i item aliases).1.Located (.function i) := by
  unfold checkAggregation
  cases item with
  | object entries =>
    refine Located.seq (Located.seq (Located.seq (Located.seq located_aggregateFunction.map
      (located_requiredText.andThen fun _ => located_resolve)) ?_) located_aggregateAlias)
      (located_require rfl)
    -- a field permits a function if both are known
    split
    next => exact located_permitAggregate
    next => exact located_ok ()
  | _ => exact located_fail rfl

/-! ## Columns -/

theorem located_checkExpr {fuel : Nat} {j : Json} :
    (checkExpr scope place fuel j).Located place := by
  induction fuel generalizing j with
  | zero => exact located_fail rfl
  | succ fuel ih =>
    cases j with
    | object entries =>
      rw [checkExpr]
      split
      next => exact located_resolve.map
      next => exact located_fail rfl
      next value _ _ =>
        split
        next => exact located_ok _
        next => exact located_fail rfl
      next =>
        split
        next => exact located_fail rfl
        next args _ _ =>
          split
          next => exact located_fail rfl
          next =>
            refine (located_all fun c hc => ?_).map
            obtain ⟨j, -, rfl⟩ := List.mem_map.mp hc
            exact ih
        next => exact located_fail rfl
      next => exact located_fail rfl
    | _ => exact located_fail rfl

theorem located_checkSubject {declared : List Aggregation} {aggregate : Option Aggregate} :
    (checkSubject scope place declared aggregate entries).Located place := by
  unfold checkSubject
  split
  next => exact (located_require rfl).map.seq located_checkExpr
  next =>
    refine located_requiredText.andThen fun name => ?_
    split
    next => exact located_ok _
    next => exact located_resolve.map

theorem located_permitColumn {aggregate : Option Aggregate} {subject : Option Subject} :
    (permitColumn place aggregate subject).Located place := by
  unfold permitColumn
  split
  next =>
    split
    next => exact located_permitAggregate
    next => exact located_ok ()
  next => exact located_ok ()

theorem located_columnAlias {i : Nat} {declared : List Aggregation} {used : List String}
    {subject : Option Subject} {aggregate : Option Aggregate} {given : Option Json} :
    (columnAlias place i declared used subject aggregate given).Located place := by
  unfold columnAlias
  split
  next => exact (located_require rfl).map
  next => exact located_ok _
  next => exact (located_ofOption rfl).andThen fun _ => (located_require rfl).map

theorem located_checkColumn {declared : List Aggregation} (i : Nat) (item : Json)
    (used : List String) : (checkColumn scope declared i item used).1.Located (.column i) := by
  unfold checkColumn
  cases item with
  | object entries =>
    dsimp only
    split
    next column _ => exact located_ok column
    next p ps hchecked =>
      -- the parts of a column are checked side by side
      change (bad p ps : Checked Column).Located (.column i)
      rw [← hchecked]
      refine Located.seq (Located.seq (Located.seq (Located.seq (Located.seq
        located_requiredText.map.map ?_) located_checkSubject) located_permitColumn)
        located_wordOr) located_columnAlias
      split
      next => exact located_ok none
      next => exact (located_ofOption rfl).map
  | _ => exact located_fail rfl

/-! ## Filter slots and sort entries -/

theorem located_permitFilter {seen : List String} {r : Resolved} :
    (permitFilter place seen r).Located place := by
  unfold permitFilter
  split
  next => exact located_fail rfl
  next => exact located_require rfl

theorem located_filterKind : (filterKind place entries).Located place := by
  unfold filterKind
  split
  next => exact located_fail rfl
  next => exact located_ofOption rfl

theorem located_filterRequired : (filterRequired place entries).Located place := by
  unfold filterRequired
  split
  next => exact located_ok false
  next => exact located_ofOption rfl

theorem located_filterOptions : (filterOptions place entries).Located place := by
  unfold filterOptions
  split
  next => exact located_ok []
  next => exact located_ofOption rfl

theorem located_checkFilter (i : Nat) (item : Json) (seen : List String) :
    (checkFilter scope i item seen).1.Located (.filter i) := by
  unfold checkFilter
  cases item with
  | object entries =>
    refine Located.seq (Located.seq (Located.seq (Located.seq
      (located_requiredText.andThen fun _ => located_resolve).map ?_) located_filterKind)
      located_filterRequired) located_filterOptions
    -- a field permits a slot if it is known
    split
    next => exact located_permitFilter
    next => exact located_ok ()
  | _ => exact located_fail rfl

theorem located_sortTarget {aliases : List String} {name : String} :
    (sortTarget scope place aliases name).Located place := by
  unfold sortTarget
  split
  next => exact located_ok _
  next =>
    refine located_resolve.andThen fun r => ?_
    split
    next => exact located_ok _
    next => exact located_fail rfl

theorem located_checkSort {aliases : List String} (i : Nat) (item : Json) (u : Unit) :
    (checkSort scope aliases i item u).1.Located (.sort i) := by
  unfold checkSort
  cases item with
  | object entries =>
    exact located_wordOr.map.seq (located_requiredText.andThen fun _ => located_sortTarget)
  | _ => exact located_fail rfl

end TenantReports
