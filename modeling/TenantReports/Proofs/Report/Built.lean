import TenantReports.Proofs.Catalog.Identifiers
import TenantReports.Proofs.Compile.Conditions
import TenantReports.Proofs.Report.Texts

/-!
# Texts of layouts that are built

Over a loaded catalog the text of a layout that is built can be read but for its join conditions:
the names of sources and of declared fields are identifiers, and what a draft gives of constants
and options was read itself. A condition that a relation supplies has the names of the relation,
which nothing checks, and a name with a dot in it cannot be read as part of a full name.

## Main definitions

* `Draft.Readable`: the constants and options of a draft can be written and read
* `Join.Named`: the names of a condition's fields can stand in full names
* `Layout.Legible`: the text of a layout can be read

## Main results

* `Draft.readable_of_ofText?`: a draft that was read is readable
* `Validator.Passed.legible_iff`: which layouts that are built can be read
* `Validator.Passed.links_of_not_named`: the others have a relation to blame
-/

namespace TenantReports

open Checked (Passes)

/-! ## Names -/

theorem isNamePart_of_isIdentifier {s : String} (h : isIdentifier s = true) : IsNamePart s := by
  constructor
  · rintro rfl
    cases h
  · intro hdot
    have hpart := isIdentifierPart_of_isIdentifier h '.' hdot
    cases hpart

namespace Catalog.Plain

variable {c : Catalog} (h : c.Plain)

include h

theorem isNamePart_of_source? {key : String} {s : Source} (hs : c.source? key = some s) :
    IsNamePart key := by
  rw [← key_of_source? hs]
  exact isNamePart_of_isIdentifier (h s (List.mem_of_find?_eq_some hs)).key

theorem isNamePart_of_isValidSource {key : String} (hkey : c.isValidSource key = true) :
    IsNamePart key := by
  obtain ⟨s, hs, -⟩ := (Option.any_eq_true ..).mp hkey
  exact h.isNamePart_of_source? hs

/-- Both names of a declared field are proper ones. -/
theorem isNamePart_of_refField? {f : FieldRef} {field : SourceField}
    (hf : c.refField? f = some field) : IsNamePart f.source ∧ IsNamePart f.field := by
  obtain ⟨s, hs, hfind⟩ := Option.bind_eq_some_iff.mp hf
  have hkey : field.key = f.field := by simpa using List.find?_some hfind
  refine ⟨h.isNamePart_of_source? hs, ?_⟩
  rw [← hkey]
  exact isNamePart_of_isIdentifier
    ((h s (List.mem_of_find?_eq_some hs)).fields field (List.mem_of_find?_eq_some hfind)).key

theorem readable_of_refField? {f : FieldRef} {field : SourceField}
    (hf : c.refField? f = some field) : f.Readable := by
  obtain ⟨hsource, hname⟩ := h.isNamePart_of_refField? hf
  rw [FieldRef.Readable, FieldRef.parse?_fullName hsource, if_pos hname]

end Catalog.Plain

/-! ## Drafts -/

namespace Json.Readable

variable {depth : Nat} {entries : List (String × Json)}

theorem of_mem_items {j item : Json} (h : j.Readable (depth + 1)) (hitem : item ∈ j.items) :
    item.Readable depth := by
  cases h with
  | array hitems => exact hitems item hitem
  | _ => cases hitem

theorem of_lookup {key : String} {j : Json} (h : (Json.object entries).Readable (depth + 1))
    (hj : entries.lookup key = some j) : j.Readable depth := by
  obtain ⟨before, after, rfl, -⟩ := List.lookup_eq_some_iff.mp hj
  cases h with
  | object hentries => exact hentries (key, j) (by simp)

theorem of_given? {key : String} {j : Json} (h : (Json.object entries).Readable (depth + 1))
    (hj : given? entries key = some j) : j.Readable depth := by
  unfold given? at hj
  split at hj
  · cases hj
  · cases hj
  · rename_i hlookup
    cases hj
    exact h.of_lookup hlookup

/-- Anything but a list or an object needs no depth. -/
theorem of_isScalar {j : Json} (h : j.Readable depth) (hscalar : j.isScalar = true) :
    j.Readable 0 := by
  cases h with
  | null => exact .null
  | bool b => exact .bool b
  | int hlow hhigh => exact .int hlow hhigh
  | double x => exact .double x
  | string s => exact .string s
  | array => cases hscalar
  | object => cases hscalar

end Json.Readable

/-- What a draft gives of constants and options can be written and read: it has been read
itself. -/
structure Draft.Readable (d : Draft) : Prop where
  columns : d.columns.Readable (Json.depthLimit - 1)
  filters : d.filters.Readable (Json.depthLimit - 1)

/-- The sections of a draft come out of a value that was read. -/
theorem Draft.readable_of_ofJson? {j : Json} {d : Draft} (hj : j.Readable Json.depthLimit)
    (h : ofJson? j = some d) : d.Readable := by
  unfold ofJson? at h
  simp only [Option.bind_eq_bind, Option.bind_eq_some_iff, Option.pure_def,
    Option.some.injEq] at h
  obtain ⟨r, hr, _, -, _, -, _, -, _, -, _, -, rfl⟩ := h
  have hvalues : ∀ e ∈ r.values, e.2.Readable (Json.depthLimit - 1) := by
    cases hj with
    | object hentries =>
      cases hr
      exact hentries
    | @array _ items hitems =>
      rw [Json.asRecord?] at hr
      split at hr
      · cases hr
        exact fun e he => hitems _ (List.of_mem_zip he).2
      · cases hr
    | _ => cases hr
  have hsection : ∀ field, ((r.get? field).getD .null).Readable (Json.depthLimit - 1) := by
    intro field
    cases hget : r.get? field with
    | none => exact .null
    | some j =>
      obtain ⟨before, after, hsplit, -⟩ := List.lookup_eq_some_iff.mp hget
      exact hvalues (field, j) (by simp [hsplit])
  exact ⟨hsection _, hsection _⟩

/-- An entry of a draft's text that is kept was read. -/
theorem Draft.readable_of_entryOfText? {cs rest : List Char} {e : String × Json}
    (h : entryOfText? cs = some (some e, rest)) : e.2.Readable (Json.depthLimit - 1) := by
  unfold entryOfText? at h
  split at h
  · split at h
    · cases h
    · split at h
      · split at h
        · obtain ⟨⟨j, r⟩, hread, heq⟩ := Option.map_eq_some_iff.mp h
          cases heq
          exact Json.readable_of_value? hread
        · obtain ⟨r, -, heq⟩ := Option.map_eq_some_iff.mp h
          cases heq
      · cases h
  · cases h

theorem Draft.readable_of_entriesOfText? {fuel : Nat} {acc entries : List (String × Json)}
    {cs rest : List Char} (hacc : ∀ e ∈ acc, e.2.Readable (Json.depthLimit - 1))
    (h : entriesOfText? fuel acc cs = some (entries, rest)) :
    ∀ e ∈ entries, e.2.Readable (Json.depthLimit - 1) := by
  -- all entries so far are readable
  induction fuel generalizing acc cs with
  | zero => cases h
  | succ fuel ih =>
    rw [entriesOfText?] at h
    split at h
    · cases h
    · rename_i e r hread
      split at h
      · cases h
      · have hmore : ∀ e' ∈ e.toList ++ acc, e'.2.Readable (Json.depthLimit - 1) := by
          rw [List.forall_mem_append]
          refine ⟨fun e' he' => ?_, hacc⟩
          rw [Option.mem_toList] at he'
          rw [he'] at hread
          exact readable_of_entryOfText? hread
        dsimp only at h
        split at h
        · cases h
          exact hmore
        · exact ih hmore h
        · cases h

/-- **A draft that was read is readable.** -/
theorem Draft.readable_of_ofText? {text : String} {d : Draft} (h : ofText? text = some d) :
    d.Readable := by
  have hobject : ∀ entries rest, (∀ e ∈ entries, e.2.Readable (Json.depthLimit - 1)) →
      (if (Json.skipBlanks rest).isEmpty then ofJson? (.object entries) else none) = some d →
      d.Readable := by
    intro entries rest hentries h
    split at h
    · exact readable_of_ofJson? (.object hentries) h
    · cases h
  unfold ofText? at h
  simp only [Option.bind_eq_bind] at h
  split at h
  · split at h
    · exact hobject _ _ (List.forall_mem_nil _) h
    · obtain ⟨⟨entries, rest⟩, hread, h⟩ := Option.bind_eq_some_iff.mp h
      exact hobject _ _ (readable_of_entriesOfText? (List.forall_mem_nil _) hread) h
  · obtain ⟨j, hj, h⟩ := Option.bind_eq_some_iff.mp h
    exact readable_of_ofJson? (Json.readable_of_parse? hj) h

/-! ## Parts that pass -/

section Parts

variable {scope : Scope} {depth : Nat}

/-- An expression that passes can be written and read. -/
theorem readable_of_checkExpr {place : Place} {fuel : Nat} {j : Json} {e : ColumnExpr}
    (hj : j.Readable depth) (h : checkExpr scope place fuel j = .ok e) : e.Readable fuel := by
  -- each level of calls uses up one unit of fuel, and three levels of the value
  induction fuel generalizing depth j e with
  | zero => simp [checkExpr] at h
  | succ fuel ih =>
    obtain ⟨entries, rfl, hcases⟩ := checkExpr_succ_eq_ok h
    obtain _ | depth := depth
    · cases hj
    rcases hcases with ⟨name, r, -, hr, rfl⟩ | ⟨value, -, hvalue, hscalar, rfl⟩ |
      ⟨name, f, items, args, -, -, -, -, hargs, -, hpass, rfl⟩
    · exact .field (FieldRef.readable_of_parse? (Scope.resolve_eq_ok.mp hr).1)
    · exact .literal ((hj.of_lookup hvalue).of_isScalar hscalar)
    · refine .call fun e he => ?_
      obtain ⟨item, hitem, hcheck⟩ := Checked.exists_left_of_mem hpass he
      have hitems := hj.of_lookup hargs
      obtain _ | depth := depth
      · cases hitems
      · exact ih (hitems.of_mem_items hitem) hcheck

/-- So can what a column that passes shows, if the fields of the declared aggregations can. -/
theorem readable_of_checkColumn {declared : List Aggregation} {i : Nat} {item : Json}
    {used after : List String} {col : Column} (hitem : item.Readable depth)
    (hdeclared : ∀ a ∈ declared, a.field.Readable)
    (h : checkColumn scope declared i item used = (.ok col, after)) :
    col.expr.Readable (maxExprDepth + 1) := by
  obtain ⟨entries, label, own, subject, rfl, -, -, hsubject, hexpr, -⟩ := checkColumn_ok h
  rw [hexpr]
  rcases checkSubject_ok hsubject with
    ⟨j, hj, -, he, -⟩ | ⟨a, ha, -, -, rfl⟩ | ⟨name, r, -, -, -, hr, rfl⟩
  · obtain _ | depth := depth
    · cases hitem
    · exact readable_of_checkExpr (hitem.of_given? hj) he
  · exact .field (hdeclared a ha)
  · exact .field (FieldRef.readable_of_parse? (Scope.resolve_eq_ok.mp hr).1)

/-- The options of a slot that passes are those given. -/
theorem options_of_checkFilter {i : Nat} {item : Json} {seen after : List String}
    {slot : FilterSlot} (h : checkFilter scope i item seen = (.ok slot, after)) :
    ∃ entries, item = .object entries ∧ filterOptions (.filter i) entries = .ok slot.options := by
  unfold checkFilter at h
  cases item with
  | object entries =>
    simp only [Prod.mk.injEq, Checked.seq_eq_ok, Checked.map_eq_ok] at h
    obtain ⟨⟨-, options, ⟨-, required, ⟨-, kind, ⟨-, u, ⟨r, -, rfl⟩, -, rfl⟩, -, rfl⟩, -, rfl⟩,
      hoptions, rfl⟩, -⟩ := h
    exact ⟨entries, rfl, hoptions⟩
  | _ => simp at h

theorem readable_of_checkFilter {i : Nat} {item : Json} {seen after : List String}
    {slot : FilterSlot} (hitem : item.Readable (depth + 2))
    (h : checkFilter scope i item seen = (.ok slot, after)) :
    ∀ o ∈ slot.options, o.Readable depth := by
  obtain ⟨entries, rfl, hoptions⟩ := options_of_checkFilter h
  unfold filterOptions at hoptions
  cases hgiven : given? entries "options" with
  | none =>
    simp only [hgiven, Checked.ok.injEq] at hoptions
    rw [← hoptions]
    exact List.forall_mem_nil _
  | some j =>
    simp only [hgiven, Checked.ofOption_eq_ok] at hoptions
    have hj := hitem.of_given? hgiven
    exact fun o ho => hj.of_mem_items (by rwa [Json.items, hoptions])

end Parts

/-! ## Layouts that are built -/

/-- The names of a condition's fields can stand in full names. -/
def Join.Named (j : Join) : Prop := IsNamePart j.left.field ∧ IsNamePart j.right.field

instance (j : Join) : Decidable j.Named := inferInstanceAs (Decidable (_ ∧ _))

/-- The text of a layout can be read. -/
def Layout.Legible (l : Layout) : Prop :=
  ((Json.parse? l.text).bind Layout.ofJson?).isSome = true

namespace Validator.Passed

variable {v : Validator} {d : Draft} {l : Layout}

theorem readable (h : v.Passed d l) (hcatalog : v.catalog.Plain) (hd : d.Readable) :
    l.Readable where
  fields f hf := by
    obtain ⟨-, field, hfield⟩ := h.fields_resolve f hf
    exact hcatalog.readable_of_refField? hfield
  exprs col hcol := by
    obtain ⟨used, hcolumns⟩ := h.columns
    have hitems := hcolumns.forall₂ (R := fun item col => ∃ i before after, checkColumn
      (l.scope v.catalog) l.aggregations.functions i item before = (.ok col, after))
      fun i j s a s' hj => ⟨i, s, s', hj⟩
    obtain ⟨item, hitem, i, before, after, hcheck⟩ := Checked.exists_left_of_mem hitems hcol
    refine readable_of_checkColumn (hd.columns.of_mem_items hitem) (fun a ha => ?_) hcheck
    obtain ⟨-, field, hfield⟩ := (h.functions_permitted a ha).1
    exact hcatalog.readable_of_refField? hfield
  options slot hslot := by
    obtain ⟨seen, hfilters⟩ := h.filters
    have hitems := hfilters.forall₂ (R := fun item slot => ∃ i before after, checkFilter
      (l.scope v.catalog) i item before = (.ok slot, after)) fun i j s a s' hj => ⟨i, s, s', hj⟩
    obtain ⟨item, hitem, i, before, after, hcheck⟩ := Checked.exists_left_of_mem hitems hslot
    exact readable_of_checkFilter (hd.filters.of_mem_items hitem) hcheck

/-- The sources of a condition are complete ones. -/
theorem isNamePart_sources (h : v.Passed d l) (hcatalog : v.catalog.Plain) {j : Join}
    (hj : j ∈ l.sources.joins) : IsNamePart j.left.source ∧ IsNamePart j.right.source := by
  obtain ⟨n, hn⟩ := List.mem_iff_getElem?.mp hj
  obtain ⟨hleft, hright, -⟩ := h.condition_declared_or_links hn
  have hscope : ∀ key ∈ l.sources.scopeAfter (n + 1), key ∈ l.sources.inScope := by
    intro key hkey
    rcases List.mem_cons.mp hkey with rfl | hkey
    · exact List.mem_cons_self
    · obtain ⟨j', hj', rfl⟩ := List.mem_map.mp hkey
      exact List.mem_cons_of_mem _ (List.mem_map_of_mem (List.mem_of_mem_take hj'))
  exact ⟨hcatalog.isNamePart_of_isValidSource (h.sources_valid _ (hscope _ hleft)),
    hcatalog.isNamePart_of_isValidSource (h.sources_valid _ (hscope _ hright))⟩

/-- **A layout that is built can be read exactly if the names of its join conditions are proper
ones.** -/
theorem legible_iff (h : v.Passed d l) (hcatalog : v.catalog.Plain) (hd : d.Readable) :
    l.Legible ↔ ∀ j ∈ l.sources.joins, j.Named := by
  rw [Layout.Legible, (h.readable hcatalog hd).isSome_read]
  refine forall₂_congr fun j hj => ?_
  obtain ⟨hleft, hright⟩ := h.isNamePart_sources hcatalog hj
  rw [FieldRef.parse?_fullName hleft, FieldRef.parse?_fullName hright, Join.Named]
  by_cases hl : IsNamePart j.left.field <;> by_cases hr : IsNamePart j.right.field <;>
    simp [hl, hr]

/-- A condition with an improper name is not stated: a relation that names a field which is not
declared has supplied it. -/
theorem links_of_not_named (h : v.Passed d l) (hcatalog : v.catalog.Plain) {n : Nat} {j : Join}
    (hj : l.sources.joins[n]? = some j) (hnamed : ¬ j.Named) :
    ∃ item, d.joinItems[n]? = some item ∧ item.states "on" = false ∧
      ∃ source r, v.catalog.Links (l.sources.scopeAfter n) j.table source r ∧
        r.fieldsFrom? source = some (j.left, j.right) ∧ ¬ r.Declared v.catalog source := by
  obtain ⟨-, -, ⟨⟨left, hleft⟩, right, hright⟩ | hlinks⟩ := h.condition_declared_or_links hj
  · exact absurd ⟨(hcatalog.isNamePart_of_refField? hleft).2,
      (hcatalog.isNamePart_of_refField? hright).2⟩ hnamed
  · exact hlinks

end Validator.Passed

end TenantReports
