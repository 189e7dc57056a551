import TenantReports.Proofs.Json.Apart
import TenantReports.Proofs.Report.Texts

/-!
# Layouts read back

What is read of the text of a layout is the layout, if its names are proper, nothing in it nests
too deep, and its constants and options are exact: their objects have their keys in order, as
every object that is held has, and the texts of their doubles are read as the same doubles. The
parts that are left out in writing are those whose defaults reading fills in. So the text of a
layout with proper names is that of no other, given that its doubles are finite, as all that is
read has.

## Main definitions

* `Json.Exact`: the values that their texts say exactly
* `Layout.values`: the constants and options of a layout
* `Layout.Proper`: all full names in a layout can be read
* `Layout.Storable`: what is asked of a layout that is to be read back
* `Layout.Finite`: a layout whose doubles are finite

## Main results

* `FieldRef.parse?_eq_some_iff`: full names and the fields they name
* `Layout.Proper.ofJson?_toJson`: proper layouts are told apart by their records
* `Layout.reads_back`: storable layouts are told apart by their texts, and read back from them
* `Layout.Proper.text_injective`: proper layouts with the same text are the same
-/

namespace TenantReports

/-! ## Names -/

/-- What is read as a field is its full name. -/
theorem FieldRef.fullName_of_parse? {s : String} {f : FieldRef} (h : parse? s = some f) :
    f.fullName = s := by
  unfold parse? at h
  dsimp only at h
  split at h
  next dot field hdrop =>
    split at h
    · cases h
    · cases h
      -- the character that stops the source is the dot
      have hdot : dot = '.' := by
        have hhead := List.head?_dropWhile_not (p := (· != '.')) s.toList
        rw [hdrop] at hhead
        simpa using hhead
      apply String.toList_inj.mp
      calc (fullName _).toList
          = s.toList.takeWhile (· != '.') ++ '.' :: field := by simp [fullName]
        _ = s.toList.takeWhile (· != '.') ++ s.toList.dropWhile (· != '.') := by rw [hdrop, hdot]
        _ = s.toList := List.takeWhile_append_dropWhile
  next => cases h

/-- **A text is read as a field exactly if it is the field's full name and both halves of it are
proper names.** -/
theorem FieldRef.parse?_eq_some_iff {s : String} {f : FieldRef} :
    parse? s = some f ↔ f.fullName = s ∧ IsNamePart f.source ∧ IsNamePart f.field := by
  constructor
  · intro h
    exact ⟨fullName_of_parse? h, isNamePart_of_parse? h⟩
  · rintro ⟨rfl, hsource, hfield⟩
    rw [parse?_fullName hsource, if_pos hfield]

/-- A field can be read exactly if both halves of its full name are proper names. -/
theorem FieldRef.readable_iff {f : FieldRef} :
    f.Readable ↔ IsNamePart f.source ∧ IsNamePart f.field := by
  rw [Readable, parse?_eq_some_iff, and_iff_right rfl]

/-! ## Values -/

/-- A value that its text says exactly: the keys of its objects are in order, and the texts of
its doubles are read as the same doubles. -/
inductive Json.Exact : Json → Prop
  | null : Exact .null
  | bool (b : Bool) : Exact (.bool b)
  | int (n : Int) : Exact (.int n)
  | double {x : Binary64} (hx : parse? (Json.double x).compact = some (.double x)) :
    Exact (.double x)
  | string (s : String) : Exact (.string s)
  | array {items : List Json} (hitems : ∀ j ∈ items, Exact j) : Exact (.array items)
  | object {entries : List (String × Json)} (hkeys : Ascending entries)
      (hentries : ∀ e ∈ entries, Exact e.2) : Exact (.object entries)

namespace Json

theorem Exact.reread {j : Json} (h : j.Exact) : j.reread = j := by
  induction h with
  | double hx =>
    rw [parse?_of_readable (.double _)] at hx
    exact Option.some.inj hx
  | array _ ih => rw [Json.reread, rereadItems_eq, List.map_congr_left ih, List.map_id']
  | @object entries hkeys _ ih =>
    have hsame : rereadEntries entries = entries := by
      rw [rereadEntries_eq]
      refine (List.map_congr_left fun e he => ?_).trans (List.map_id' _)
      rw [ih e he]
    rw [Json.reread, hsame, ofEntries, orderKeys_of_ascending hkeys]
  | _ => rfl

/-- A double is exact if its text is read as it. -/
theorem exact_double {x : Binary64} (h : ((value? 0 (doubleText x).toList).any fun e =>
    match e.1 with
    | .double y => y = x
    | _ => false) = true) : (Json.double x).Exact := by
  refine .double ?_
  rw [parse?_of_readable (.double x), Json.reread, rereadDouble]
  obtain ⟨⟨j, rest⟩, hread, hj⟩ := (Option.any_eq_true ..).mp h
  rw [hread]
  cases j with
  | double y => rw [Option.map_some, Option.getD_some, of_decide_eq_true hj]
  | _ => cases hj

end Json

namespace ColumnExpr

mutual

/-- The constants of an expression, from left to right. -/
def literals : ColumnExpr → List Json
  | .field _ => []
  | .literal v => [v]
  | .call _ args => literalsOfArgs args

/-- The constants of a list of arguments. -/
def literalsOfArgs : List ColumnExpr → List Json
  | [] => []
  | e :: es => literals e ++ literalsOfArgs es

end

mutual

/-- An expression stays as it is if its constants do. -/
theorem mapValues_eq_self {change : Json → Json} : ∀ e : ColumnExpr,
    (∀ v ∈ e.literals, change v = v) → e.mapValues change = e
  | .field f, _ => by rw [mapValues]
  | .literal v, h => by rw [mapValues, h v (List.mem_singleton_self v)]
  | .call f args, h => by rw [mapValues, mapArgs_eq_self args h]

/-- Arguments stay as they are if their constants do. -/
theorem mapArgs_eq_self {change : Json → Json} : ∀ es : List ColumnExpr,
    (∀ v ∈ literalsOfArgs es, change v = v) → mapArgs change es = es
  | [], _ => by rw [mapArgs]
  | e :: es, h => by
    rw [literalsOfArgs, List.forall_mem_append] at h
    rw [mapArgs, mapValues_eq_self e h.1, mapArgs_eq_self es h.2]

end

end ColumnExpr

/-! ## Layouts -/

namespace Layout

/-- The constants and options of a layout. -/
def values (l : Layout) : List Json :=
  l.columns.flatMap (·.expr.literals) ++ l.filters.flatMap (·.options)

/-- All full names in a layout can be read: their halves are not empty and have no dots. -/
structure Proper (l : Layout) : Prop where
  fields : ∀ f ∈ l.fields, IsNamePart f.source ∧ IsNamePart f.field
  left : ∀ j ∈ l.sources.joins, IsNamePart j.left.source ∧ IsNamePart j.left.field
  right : ∀ j ∈ l.sources.joins, IsNamePart j.right.source ∧ IsNamePart j.right.field

/-- A layout that can be stored and read back: its names are proper, the values of its columns
and the options of its filters do not nest too deep, and they are exact. A call takes three levels
of the depth, so the calls that validation lets through leave much of it to constants. -/
structure Storable (l : Layout) : Prop extends l.Proper where
  exprs : ∀ col ∈ l.columns, col.expr.toJson.Readable (Json.depthLimit - 3)
  options : ∀ slot ∈ l.filters, ∀ o ∈ slot.options, o.Readable (Json.depthLimit - 4)
  values : ∀ v ∈ l.values, v.Exact

variable {l : Layout}

/-- A layout stays as it is if its constants and options do. -/
theorem mapValues_eq_self {change : Json → Json} (h : ∀ v ∈ l.values, change v = v) :
    l.mapValues change = l := by
  rw [values, List.forall_mem_append, List.forall_mem_flatMap, List.forall_mem_flatMap] at h
  have hcolumns : l.columns.map (·.mapValues change) = l.columns := by
    refine (List.map_congr_left fun col hcol => ?_).trans (List.map_id' _)
    rw [Column.mapValues, ColumnExpr.mapValues_eq_self _ (h.1 col hcol)]
  have hfilters : l.filters.map (·.mapValues change) = l.filters := by
    refine (List.map_congr_left fun slot hslot => ?_).trans (List.map_id' _)
    rw [FilterSlot.mapValues, List.map_congr_left (h.2 slot hslot), List.map_id']
  rw [mapValues, hcolumns, hfilters]

namespace Proper

theorem readable (h : l.Proper) : ∀ f ∈ l.fields, f.Readable :=
  fun f hf => FieldRef.readable_iff.mpr (h.fields f hf)

/-- A layout with proper names is read of every copy, with its constants and options copied. -/
theorem ofJson?_copy (h : l.Proper) {copy : Json → Json} (hcopy : Json.IsCopy copy) :
    ofJson? (copy l.toJson) = some (l.mapValues copy) := by
  have hsources : Sources.ofJson? (copy l.sources.toJson) = some l.sources := by
    have hjoin : ∀ j ∈ l.sources.joins, Join.ofJson? (copy j.toJson) = some (id j) := by
      intro j hj
      rw [Join.ofJson?_copy hcopy, FieldRef.readable_iff.mpr (h.left j hj),
        FieldRef.readable_iff.mpr (h.right j hj)]
      rfl
    have hjoins := hcopy.listOf?_eq_some Join.toJson hjoin
    rw [hcopy.listOf?, List.map_id] at hjoins
    rw [Sources.ofJson?_copy hcopy, hjoins]
    rfl
  rw [Layout.ofJson?_copy hcopy h.readable, hsources]
  rfl

/-- **Layouts with proper names are read of their records.** -/
theorem ofJson?_toJson (h : l.Proper) : ofJson? l.toJson = some l := by
  have hread := h.ofJson?_copy Json.isCopy_id
  rwa [mapValues_eq_self fun v _ => id_eq v] at hread

end Proper

theorem Storable.read (h : l.Storable) : (Json.parse? l.text).bind ofJson? = some l := by
  have hvalues : ∀ v ∈ l.values, v.reread = v := fun v hv => (h.values v hv).reread
  rw [text, Json.parse?_of_readable (readable_toJson h.exprs h.options), Option.bind_some,
    h.ofJson?_copy Json.isCopy_reread, mapValues_eq_self hvalues]

/-- What validation lets through does not nest too deep. -/
theorem Readable.storable (h : l.Readable) (hproper : l.Proper)
    (hvalues : ∀ v ∈ l.values, v.Exact) : l.Storable where
  toProper := hproper
  exprs col hcol := (h.exprs col hcol).toJson.mono (by decide)
  options := h.options
  values := hvalues

/-- **Storable layouts are read back from their texts, and full names from theirs.** Whatever a
layout leaves out in writing, an empty list of options or an absent aggregate, is what reading
fills in. -/
theorem reads_back : (∀ l : Layout, l.Storable → (Json.parse? l.text).bind ofJson? = some l) ∧
    ∀ (s : String) (f : FieldRef), FieldRef.parse? s = some f ↔
      f.fullName = s ∧ IsNamePart f.source ∧ IsNamePart f.field :=
  ⟨fun _ h => h.read, fun _ _ => FieldRef.parse?_eq_some_iff⟩

/-- A layout over two sources, with constants within calls within calls, a column that is not
aggregated, a filter without options and one with nested ones. -/
def nestedLayout : Layout where
  sources := ⟨"invoices", [⟨"customers", .left, ⟨"invoices", "customer_id"⟩, ⟨"customers", "id"⟩⟩]⟩
  columns := [
    ⟨.call .coalesce [.call .coalesce [.field ⟨"invoices", "total_amount"⟩, .literal (.int (-2))],
      .literal (.double ⟨4609434218613702656⟩)], "Total \"net\"", .number, none, "column_0"⟩,
    ⟨.field ⟨"customers", "name"⟩, "", .text, some .count, "Näme"⟩]
  filters := [⟨⟨"customers", "name"⟩, "Name", .text, false, []⟩,
    ⟨⟨"invoices", "status"⟩, "Status", .multiselect, true,
      [.object [("label", .string "Open"), ("value", .array [.null, .bool true])]]⟩]
  aggregations := ⟨[⟨"customers", "name"⟩], [⟨⟨"invoices", "total_amount"⟩, .sum, "total"⟩]⟩
  sorting := [⟨.output "total", .desc⟩, ⟨.field ⟨"customers", "name"⟩, .asc⟩]

theorem storable_nestedLayout : nestedLayout.Storable := by
  have hnested : ColumnExpr.Readable 2 (.call .coalesce
      [.call .coalesce [.field ⟨"invoices", "total_amount"⟩, .literal (.int (-2))],
        .literal (.double ⟨4609434218613702656⟩)]) := by
    refine .call (List.forall_mem_cons.mpr ⟨.call ?_, List.forall_mem_singleton.mpr ?_⟩)
    · refine List.forall_mem_cons.mpr ⟨.field rfl, List.forall_mem_singleton.mpr ?_⟩
      exact .literal (.int (by decide) (by decide))
    · exact .literal (.double _)
  have hname : ColumnExpr.Readable 0 (.field ⟨"customers", "name"⟩) := .field rfl
  refine ⟨⟨by decide, by decide, by decide⟩, ?_, ?_, ?_⟩
  · refine List.forall_mem_cons.mpr ⟨?_, List.forall_mem_singleton.mpr ?_⟩
    · exact hnested.toJson.mono (by decide)
    · exact hname.toJson.mono (by decide)
  · refine List.forall_mem_cons.mpr ⟨List.forall_mem_nil _, List.forall_mem_singleton.mpr ?_⟩
    refine List.forall_mem_singleton.mpr (.object ?_)
    refine List.forall_mem_cons.mpr ⟨.string _, List.forall_mem_singleton.mpr (.array ?_)⟩
    exact List.forall_mem_cons.mpr ⟨.null, List.forall_mem_singleton.mpr (.bool true)⟩
  · show ∀ v ∈ [Json.int (-2), .double ⟨4609434218613702656⟩, .object _], v.Exact
    refine List.forall_mem_cons.mpr ⟨.int _, List.forall_mem_cons.mpr ⟨?_, ?_⟩⟩
    · exact Json.exact_double (by decide +kernel)
    · refine List.forall_mem_singleton.mpr (.object (ascending_iff.mpr (by decide)) ?_)
      refine List.forall_mem_cons.mpr ⟨.string _, List.forall_mem_singleton.mpr (.array ?_)⟩
      exact List.forall_mem_cons.mpr ⟨.null, List.forall_mem_singleton.mpr (.bool true)⟩

/-- Such a layout is one. -/
theorem reads_back_nestedLayout : nestedLayout.Storable ∧
    (Json.parse? nestedLayout.text).bind ofJson? = some nestedLayout :=
  ⟨storable_nestedLayout, reads_back.1 nestedLayout storable_nestedLayout⟩

end Layout

/-! ## Texts tell layouts apart -/

/-- What is written of a value is a copy. -/
theorem Json.isCopy_written : Json.IsCopy Json.written where
  bool _ := rfl
  string _ := rfl
  array items := by rw [written, writtenItems_eq]
  entry _ _ := rfl
  object entries _ :=
    ⟨writtenEntries entries, rfl, fun _ => by rw [writtenEntries_eq, lookup_map_values]⟩

namespace Layout

variable {l l' : Layout}

/-- The doubles among the constants and options are finite. -/
def Finite (l : Layout) : Prop := ∀ v ∈ l.values, v.Finite

/-- A proper layout is read of what is written of it. -/
theorem Proper.ofJson?_written (h : l.Proper) (hfinite : l.Finite) :
    ofJson? l.toJson.written = some l := by
  have hread := h.ofJson?_copy Json.isCopy_written
  rwa [mapValues_eq_self fun v hv => (hfinite v hv).written_eq] at hread

/-- **Proper layouts with the same text are the same.** -/
theorem Proper.text_injective (h : l.Proper) (h' : l'.Proper) (hfinite : l.Finite)
    (hfinite' : l'.Finite) (htext : l.text = l'.text) : l = l' := by
  have hread := h.ofJson?_written hfinite
  rw [Json.compact_eq_iff.mp htext, h'.ofJson?_written hfinite'] at hread
  exact (Option.some.inj hread).symm

end Layout

end TenantReports
