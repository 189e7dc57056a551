import TenantReports.Proofs.Validation.Checked
import TenantReports.Report.Draft
import TenantReports.Validation.Scope

/-!
# Names in scope

A name resolves to a field that the catalog declares, of a source in scope, and to nothing else.
The items of a draft are read off its sections alone, without a check.

## Main definitions

* `Catalog.Resolves`: a field is declared, and belongs to one of the sources
* `Json.states`: a key has a value other than `null`
* `Json.word?`: the word of a vocabulary under a key
* `Draft.joinItems`, `Draft.columnItems`, `Draft.groupItems`, `Draft.functionItems`,
  `Draft.filterItems`, `Draft.sortItems`: the items of a draft's lists

## Main results

* `Scope.resolve_eq_ok`: what a name resolves to
* `listSection?_eq_ok`: a list section has the items of its list
-/

namespace TenantReports

/-- The catalog declares the field, and it belongs to one of the sources. -/
def Catalog.Resolves (c : Catalog) (sources : List String) (f : FieldRef) : Prop :=
  f.source ∈ sources ∧ ∃ field, c.refField? f = some field

/-- A name resolves to the field it names, if the catalog declares that field and its source is
in scope. -/
theorem Scope.resolve_eq_ok {s : Scope} {place : Place} {name : String} {r : Resolved} :
    s.resolve place name = .ok r ↔
      FieldRef.parse? name = some r.ref ∧ s.catalog.refField? r.ref = some r.field ∧
        r.ref.source ∈ s.sources := by
  unfold Scope.resolve
  cases hp : FieldRef.parse? name with
  | none => simp
  | some ref =>
    cases hf : s.catalog.refField? ref with
    | none =>
      -- a field that is not declared resolves to nothing
      simp only [Option.bind_some, hf, Option.map_none, Checked.fail_ne_ok, false_iff]
      rintro ⟨href, hfield, -⟩
      obtain rfl : ref = r.ref := by simpa using href
      simp [hf] at hfield
    | some field =>
      -- a declared one does if its source is in scope
      simp only [Option.bind_some, hf, Option.map_some, List.contains_eq_mem, decide_eq_true_eq]
      constructor
      · intro h
        split at h
        next hsource =>
          obtain rfl : (⟨ref, field⟩ : Resolved) = r := by simpa using h
          exact ⟨rfl, hf, hsource⟩
        next => simp at h
      · rintro ⟨href, hfield, hsource⟩
        obtain rfl : ref = r.ref := by simpa using href
        obtain rfl : field = r.field := by simpa [hf] using hfield
        rw [if_pos hsource]

theorem Scope.resolves_of_resolve {s : Scope} {place : Place} {name : String} {r : Resolved}
    (h : s.resolve place name = .ok r) : s.catalog.Resolves s.sources r.ref := by
  obtain ⟨-, hfield, hsource⟩ := Scope.resolve_eq_ok.mp h
  exact ⟨hsource, r.field, hfield⟩

/-- What the catalog says about a name that resolves. -/
theorem Scope.field?_of_resolve {s : Scope} {place : Place} {name : String} {r : Resolved}
    (h : s.resolve place name = .ok r) :
    s.catalog.field? r.ref.source r.ref.field = some r.field :=
  (Scope.resolve_eq_ok.mp h).2.1

theorem Scope.isAggregatable_of_resolve {s : Scope} {place : Place} {name : String} {r : Resolved}
    (h : s.resolve place name = .ok r) (ha : r.field.aggregatable = true) :
    s.catalog.isAggregatable r.ref.source r.ref.field = true := by
  rw [Catalog.isAggregatable, Scope.field?_of_resolve h]
  exact ha

@[simp] theorem requiredText_eq_ok {place : Place} {entries : List (String × Json)}
    {key text : String} :
    requiredText place entries key = .ok text ↔ nonBlank? entries key = some text := by
  simp [requiredText]

@[simp] theorem wordOr_none {α : Type} [Named α] {place : Place} {what : String} {default a : α} :
    wordOr place what default none = .ok a ↔ default = a := by
  simp [wordOr]

/-! ## What an object states -/

/-- A key has a value other than `null`. -/
def Json.states (j : Json) (key : String) : Bool := !(j.get key).isNull

theorem given?_eq_none_iff {entries : List (String × Json)} {key : String} :
    given? entries key = none ↔ (Json.object entries).states key = false := by
  simp only [given?, Json.states, Json.get, Json.get?]
  cases entries.lookup key with
  | none => simp [Json.isNull]
  | some j => cases j <;> simp [Json.isNull]

theorem exists_given?_of_states {entries : List (String × Json)} {key : String}
    (h : (Json.object entries).states key = true) : ∃ j, given? entries key = some j := by
  cases hj : given? entries key with
  | none => simp [given?_eq_none_iff.mp hj] at h
  | some j => exact ⟨j, rfl⟩

theorem get_of_given? {entries : List (String × Json)} {key : String} {j : Json}
    (h : given? entries key = some j) : (Json.object entries).get key = j := by
  unfold given? at h
  split at h <;> simp_all [Json.get, Json.get?]

theorem get_of_nonBlank? {entries : List (String × Json)} {key text : String}
    (h : nonBlank? entries key = some text) : (Json.object entries).get key = .string text := by
  unfold nonBlank? at h
  split at h <;> simp_all [Json.get, Json.get?]

/-- A word of a vocabulary that a key states. -/
def Json.word? {α : Type} [Named α] (j : Json) (key : String) : Option α :=
  (j.get key).asString?.bind Named.parse?

/-! ## The items of a draft -/

/-- The items of a list; none of anything else. -/
def Json.items (j : Json) : List Json := j.asArray?.getD []

/-- A list section has the items of its list. -/
theorem listSection?_eq_ok {place : Place} {expected : String} {j : Json} {items : List Json}
    (h : listSection? place expected j = .ok items) : items = j.items := by
  cases j <;> simp_all [listSection?, Json.items, Json.asArray?]

namespace Draft

/-- The joins that a draft lists. -/
def joinItems (d : Draft) : List Json := (d.sources.get "joins").items

/-- The columns that a draft lists. -/
def columnItems (d : Draft) : List Json := d.columns.items

/-- The fields that a draft groups by. -/
def groupItems (d : Draft) : List Json := (d.aggregations.get "group_by").items

/-- The aggregations that a draft lists. -/
def functionItems (d : Draft) : List Json := (d.aggregations.get "functions").items

/-- The filter slots that a draft lists. -/
def filterItems (d : Draft) : List Json := d.filters.items

/-- The sort entries of a draft: those it lists, or a single one by itself. -/
def sortItems (d : Draft) : List Json :=
  match d.sorting with
  | .object entries => [.object entries]
  | j => j.items

end Draft

/-- A section that is not too long has at most as many items as its limit. -/
@[simp] theorem atMost_eq_nil {s : Counted} {count max : Nat} :
    atMost s count max = [] ↔ count ≤ max := by
  simp [atMost]

end TenantReports
