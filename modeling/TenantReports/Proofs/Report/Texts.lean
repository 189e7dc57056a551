import Mathlib.Data.List.TakeWhile
import TenantReports.Proofs.Json.Keys
import TenantReports.Proofs.Json.Reread
import TenantReports.Proofs.Validation.Admissible
import TenantReports.Report.LayoutJson

/-!
# Texts of layouts

A layout is stored as text. The text can be read exactly if all full names of its fields can, for
everything else in it is read: words of closed vocabularies, texts of any kind, constants and
options that do not nest too deep. What is read is the layout with its constants and options as
their texts are read.

Reading sees a copy of what was written: the same flags and texts, lists of the same items, and
objects that hold the same under each key. So the parts are read of any copy.

## Main definitions

* `IsNamePart`: a name that can stand in a full name
* `Json.IsCopy`: a way to copy values
* `Layout.mapValues`: a layout with its constants and options changed
* `ColumnExpr.Readable`, `Layout.Readable`: all is read but the names in the join conditions

## Main results

* `FieldRef.parse?_fullName`: which full names can be read
* `Layout.ofJson?_copy`: a layout is read of a copy, with its constants and options copied
* `Layout.Readable.isSome_read`: which texts of layouts can be read
-/

namespace TenantReports

/-! ## Names -/

/-- A name that can stand on either side of the dot of a full name. -/
def IsNamePart (name : String) : Prop := name ≠ "" ∧ '.' ∉ name.toList

instance (name : String) : Decidable (IsNamePart name) := inferInstanceAs (Decidable (_ ∧ _))

namespace FieldRef

/-- What is read as a field has a name on either side of the dot. -/
theorem isNamePart_of_parse? {s : String} {f : FieldRef} (h : parse? s = some f) :
    IsNamePart f.source ∧ IsNamePart f.field := by
  unfold parse? at h
  dsimp only at h
  split at h
  next field _ =>
    split at h
    · cases h
    next hparts =>
      cases h
      simp only [Bool.or_eq_true, List.isEmpty_iff, not_or, Bool.not_eq_true,
        List.contains_eq_mem, decide_eq_false_iff_not] at hparts
      have hdot : '.' ∉ s.toList.takeWhile (· != '.') := by
        intro hmem
        simpa using List.mem_takeWhile_imp hmem
      simpa [IsNamePart, hdot, and_assoc] using hparts
  next => cases h

/-- **A full name can be read exactly if the field has a name**, given that the source has. -/
theorem parse?_fullName {f : FieldRef} (hsource : IsNamePart f.source) :
    parse? f.fullName = if IsNamePart f.field then some f else none := by
  obtain ⟨hne, hdot⟩ := hsource
  have hchars : f.fullName.toList = f.source.toList ++ '.' :: f.field.toList := by
    simp [fullName]
  have hbefore : ∀ c ∈ f.source.toList, (c != '.') = true := by
    intro c hc
    rw [bne_iff_ne]
    rintro rfl
    exact hdot hc
  unfold parse?
  rw [hchars, List.takeWhile_append_of_pos hbefore, List.dropWhile_append_of_pos hbefore]
  have hempty : f.source.toList.isEmpty = false := by simpa using hne
  by_cases hname : f.field = "" <;> by_cases hinside : '.' ∈ f.field.toList <;>
    simp [IsNamePart, hempty, hname, hinside]

end FieldRef

/-! ## Words -/

/-- A vocabulary whose names tell its values apart. -/
class Named.Lawful (α : Type) [Named α] : Prop where
  ofName?_name : ∀ a : α, Named.ofName? (Named.name a) = some a

instance : Named.Lawful JoinKind := ⟨by intro a; cases a <;> rfl⟩

instance : Named.Lawful ScalarFunction := ⟨by intro a; cases a <;> rfl⟩

instance : Named.Lawful ColumnFormat := ⟨by intro a; cases a <;> rfl⟩

instance : Named.Lawful Aggregate := ⟨by intro a; cases a <;> rfl⟩

instance : Named.Lawful FilterKind := ⟨by intro a; cases a <;> rfl⟩

instance : Named.Lawful Direction := ⟨by intro a; cases a <;> rfl⟩

@[simp] theorem Named.ofJson?_string {α : Type} [Named α] [Named.Lawful α] (a : α) :
    Named.ofJson? (.string (Named.name a)) = some a :=
  Lawful.ofName?_name a

/-! ## Copies -/

/-- A way to copy values: flags and texts stay as they are, lists keep their items, and objects
keep what each key holds, in whatever order. -/
structure Json.IsCopy (copy : Json → Json) : Prop where
  bool (b : Bool) : copy (.bool b) = .bool b
  string (s : String) : copy (.string s) = .string s
  array (items : List Json) : copy (.array items) = .array (items.map copy)
  entry (key : String) (j : Json) : copy (.object [(key, j)]) = .object [(key, copy j)]
  object (entries : List (String × Json)) (hkeys : (entries.map (·.1)).Nodup) :
    ∃ copied, copy (.object entries) = .object copied ∧
      ∀ key, copied.lookup key = (entries.lookup key).map copy

/-- What is not copied at all is a copy. -/
theorem Json.isCopy_id : Json.IsCopy id where
  bool _ := rfl
  string _ := rfl
  array items := by rw [id, List.map_id]
  entry _ _ := rfl
  object entries _ := ⟨entries, rfl, fun key => by rw [Option.map_id, id]⟩

/-- What the text of a value is read as is a copy. -/
theorem Json.isCopy_reread : Json.IsCopy Json.reread where
  bool _ := rfl
  string _ := rfl
  array items := by rw [reread, rereadItems_eq]
  entry _ _ := rfl
  object entries hkeys := by
    refine ⟨orderKeys (rereadEntries entries), by rw [reread, ofEntries], fun key => ?_⟩
    have hsame : (rereadEntries entries).map (·.1) = entries.map (·.1) := by
      rw [rereadEntries_eq, List.map_map]
      rfl
    rw [lookup_orderKeys (hsame ▸ hkeys), rereadEntries_eq, lookup_map_values]

namespace Json.IsCopy

variable {copy : Json → Json} (hcopy : Json.IsCopy copy)

include hcopy

/-- The copy of a record holds the copies of its fields. -/
theorem asRecord? {j : Json} {entries : List (String × Json)} (hj : j = .object entries)
    (hkeys : (entries.map (·.1)).Nodup) (fields : List String) :
    ∃ r, (copy j).asRecord? fields = some r ∧
      ∀ field, r.get? field = (entries.lookup field).map copy := by
  obtain ⟨copied, heq, hlookup⟩ := hcopy.object entries hkeys
  exact ⟨⟨true, copied⟩, by rw [hj, heq, Json.asRecord?], hlookup⟩

theorem named {α : Type} [Named α] [Named.Lawful α] (a : α) :
    Named.ofJson? (copy (Named.toJson a)) = some a := by
  rw [Named.toJson, hcopy.string, Named.ofJson?_string]

/-- A list is read by reading the copies of its items. -/
theorem listOf? {α β : Type} (read : Json → Option α) (write : β → Json) (bs : List β) :
    Json.listOf? read (copy (.array (bs.map write))) = bs.mapM fun b => read (copy (write b)) := by
  rw [hcopy.array, Json.listOf?, List.map_map, List.mapM_map]
  rfl

/-- So it is read as the list of what the items are read as. -/
theorem listOf?_eq_some {α β : Type} {read : Json → Option α} (write : β → Json) {f : β → α}
    {bs : List β} (h : ∀ b ∈ bs, read (copy (write b)) = some (f b)) :
    Json.listOf? read (copy (.array (bs.map write))) = some (bs.map f) := by
  rw [hcopy.listOf?]
  induction bs with
  | nil => rfl
  | cons b bs ih =>
    obtain ⟨hb, hbs⟩ := List.forall_mem_cons.mp h
    rw [List.mapM_cons, hb, ih hbs, List.map_cons]
    rfl

end Json.IsCopy

/-! ## Parts of layouts -/

/-- A field whose full name is read as it. -/
def FieldRef.Readable (f : FieldRef) : Prop := parse? f.fullName = some f

theorem FieldRef.readable_of_parse? {s : String} {f : FieldRef} (h : parse? s = some f) :
    f.Readable := by
  obtain ⟨hsource, hfield⟩ := isNamePart_of_parse? h
  rw [Readable, parse?_fullName hsource, if_pos hfield]

namespace ColumnExpr

/-- An expression that can be read: its fields are, its constants too, and calls nest at most
`depth` deep. -/
inductive Readable : Nat → ColumnExpr → Prop
  | field {depth : Nat} {f : FieldRef} (hf : f.Readable) : Readable depth (.field f)
  | literal {depth : Nat} {v : Json} (hv : v.Readable 0) : Readable depth (.literal v)
  | call {depth : Nat} {f : ScalarFunction} {args : List ColumnExpr}
      (hargs : ∀ e ∈ args, Readable depth e) : Readable (depth + 1) (.call f args)

theorem argsToJson_eq (args : List ColumnExpr) : argsToJson args = args.map toJson := by
  induction args with
  | nil => rfl
  | cons e es ih => rw [argsToJson, ih, List.map_cons]

/-- Each level of calls takes three of JSON. -/
theorem Readable.toJson {depth : Nat} {e : ColumnExpr} (h : e.Readable depth) :
    e.toJson.Readable (3 * depth + 1) := by
  induction h with
  | field hf =>
    refine .object fun e he => ?_
    obtain rfl := List.mem_singleton.mp he
    exact .string _
  | literal hv =>
    refine .object fun e he => ?_
    obtain rfl := List.mem_singleton.mp he
    exact hv.mono (Nat.zero_le _)
  | @call depth f args _ ih =>
    have hargs : (Json.array (argsToJson args)).Readable (3 * depth + 2) := by
      rw [argsToJson_eq]
      refine .array fun j hj => ?_
      obtain ⟨e, he, rfl⟩ := List.mem_map.mp hj
      exact ih e he
    refine .object fun e he => ?_
    obtain rfl := List.mem_singleton.mp he
    refine .object fun e he => ?_
    simp only [List.mem_cons, List.not_mem_nil, or_false] at he
    rcases he with rfl | rfl
    · exact .string _
    · exact hargs

mutual

/-- An expression with its constants changed. -/
def mapValues (change : Json → Json) : ColumnExpr → ColumnExpr
  | .field f => .field f
  | .literal v => .literal (change v)
  | .call f args => .call f (mapArgs change args)

/-- Arguments with their constants changed. -/
def mapArgs (change : Json → Json) : List ColumnExpr → List ColumnExpr
  | [] => []
  | e :: es => mapValues change e :: mapArgs change es

end

theorem argsOfEntries?_eq (entries : List (String × Json)) :
    argsOfEntries? entries = (entries.lookup "args").bind fun
      | .array args => argsOfJson? args
      | _ => none := by
  induction entries with
  | nil => rw [argsOfEntries?]; rfl
  | cons e entries ih =>
    obtain ⟨key, j⟩ := e
    rw [lookup_cons_ite]
    by_cases hkey : key = "args"
    · rw [if_pos hkey.symm, Option.bind_some]
      cases j <;> simp [argsOfEntries?, hkey]
    · rw [if_neg (Ne.symm hkey), ← ih]
      cases j <;> simp [argsOfEntries?, hkey]

end ColumnExpr

/-- A column with its constants changed. -/
def Column.mapValues (change : Json → Json) (c : Column) : Column :=
  { c with expr := c.expr.mapValues change }

/-- A filter slot with its options changed. -/
def FilterSlot.mapValues (change : Json → Json) (s : FilterSlot) : FilterSlot :=
  { s with options := s.options.map change }

theorem FieldRef.ofJson?_copy {copy : Json → Json} (hcopy : Json.IsCopy copy) {f : FieldRef}
    (h : f.Readable) : ofJson? (copy f.toJson) = some f := by
  rw [toJson, hcopy.string]
  exact h

namespace ColumnExpr

variable {copy : Json → Json}

mutual

/-- An expression is read if its fields are. -/
theorem ofJson?_copy (hcopy : Json.IsCopy copy) : ∀ e : ColumnExpr,
    (∀ f ∈ e.fields, f.Readable) → ofJson? (copy e.toJson) = some (e.mapValues copy)
  | .field f, h => by
    have hf := FieldRef.ofJson?_copy hcopy (h f (List.mem_singleton_self f))
    rw [toJson, hcopy.entry, ofJson?, hf, mapValues]
    rfl
  | .literal v, _ => by
    rw [toJson, hcopy.entry, ofJson?, mapValues]
  | .call f args, h => by
    have hargs := argsOfJson?_copy hcopy args h
    obtain ⟨copied, heq, hlookup⟩ := hcopy.object
      [("function", Named.toJson f), ("args", .array (argsToJson args))] (by simp)
    have hfunction : copied.lookup "function" = some (copy (Named.toJson f)) := hlookup "function"
    have hlist : copied.lookup "args" = some (.array ((argsToJson args).map copy)) := by
      rw [← hcopy.array]
      exact hlookup "args"
    rw [toJson, hcopy.entry, heq, ofJson?, argsOfEntries?_eq, hfunction, hlist, Option.bind_some,
      hcopy.named, Option.bind_some]
    dsimp only
    rw [hargs, mapValues]
    rfl

/-- Arguments are read if their fields are. -/
theorem argsOfJson?_copy (hcopy : Json.IsCopy copy) : ∀ es : List ColumnExpr,
    (∀ f ∈ fields.fieldsOfArgs es, f.Readable) →
      argsOfJson? ((argsToJson es).map copy) = some (mapArgs copy es)
  | [], _ => by
    rw [argsToJson, List.map_nil, argsOfJson?, mapArgs]
  | e :: es, h => by
    rw [fields.fieldsOfArgs, List.forall_mem_append] at h
    rw [argsToJson, List.map_cons, argsOfJson?, ofJson?_copy hcopy e h.1,
      argsOfJson?_copy hcopy es h.2, mapArgs]
    rfl

end

end ColumnExpr

section Copies

variable {copy : Json → Json} (hcopy : Json.IsCopy copy)

include hcopy

/-- A join is read if the two names of its condition are. -/
theorem Join.ofJson?_copy (j : Join) :
    ofJson? (copy j.toJson) = do
      let left ← FieldRef.parse? j.left.fullName
      let right ← FieldRef.parse? j.right.fullName
      return ⟨j.table, j.kind, left, right⟩ := by
  obtain ⟨r, hr, hget⟩ :=
    hcopy.asRecord? (j := j.toJson) rfl (by simp) ["table", "type", "on"]
  rw [ofJson?, hr]
  cases hleft : FieldRef.parse? j.left.fullName <;>
    cases hright : FieldRef.parse? j.right.fullName <;>
      simp [Record.required?, hget, List.lookup_cons, hcopy.string, hcopy.array, hcopy.named,
        Json.asString?, condition?, FieldRef.toJson, FieldRef.ofJson?, hleft, hright]

/-- Sources are read if their joins are. -/
theorem Sources.ofJson?_copy (s : Sources) : ofJson? (copy s.toJson) =
    (s.joins.mapM fun j => Join.ofJson? (copy j.toJson)).map fun joins => ⟨s.primary, joins⟩ := by
  obtain ⟨r, hr, hget⟩ := hcopy.asRecord? (j := s.toJson) rfl (by simp) ["primary", "joins"]
  rw [ofJson?, hr]
  cases hjoins : s.joins.mapM fun j => Join.ofJson? (copy j.toJson) <;>
    simp [Record.required?, Record.withDefault?, hget, List.lookup_cons, hcopy.string,
      hcopy.listOf?, Json.asString?, hjoins]

theorem Column.ofJson?_copy {c : Column} (h : ∀ f ∈ c.expr.fields, f.Readable) :
    ofJson? (copy c.toJson) = some (c.mapValues copy) := by
  obtain ⟨expr, label, format, aggregate, name⟩ := c
  have hexpr := ColumnExpr.ofJson?_copy hcopy expr h
  cases aggregate with
  | none =>
    obtain ⟨r, hr, hget⟩ := hcopy.asRecord? (j := toJson ⟨expr, label, format, none, name⟩) rfl
      (by simp) ["expr", "label", "format", "aggregation", "alias"]
    rw [ofJson?, hr]
    simp [Record.required?, Record.withDefault?, Record.nullable?, hget, List.lookup_cons, hexpr,
      hcopy.string, hcopy.named, Json.asString?, mapValues]
  | some a =>
    obtain ⟨r, hr, hget⟩ := hcopy.asRecord? (j := toJson ⟨expr, label, format, some a, name⟩) rfl
      (by simp) ["expr", "label", "format", "aggregation", "alias"]
    rw [ofJson?, hr]
    simp [Record.required?, Record.withDefault?, Record.nullable?, hget, List.lookup_cons, hexpr,
      hcopy.string, Json.asString?, mapValues, Named.toJson]

theorem FilterSlot.ofJson?_copy {s : FilterSlot} (h : s.field.Readable) :
    ofJson? (copy s.toJson) = some (s.mapValues copy) := by
  obtain ⟨field, label, kind, required, options⟩ := s
  have hfield := FieldRef.ofJson?_copy hcopy h
  cases options with
  | nil =>
    obtain ⟨r, hr, hget⟩ := hcopy.asRecord? (j := toJson ⟨field, label, kind, required, []⟩) rfl
      (by simp) ["field", "label", "type", "required", "options"]
    rw [ofJson?, hr]
    simp [Record.required?, Record.withDefault?, hget, List.lookup_cons, hfield, hcopy.string,
      hcopy.bool, hcopy.named, Json.asString?, Json.asBool?, mapValues]
  | cons o os =>
    obtain ⟨r, hr, hget⟩ := hcopy.asRecord? (j := toJson ⟨field, label, kind, required, o :: os⟩)
      rfl (by simp) ["field", "label", "type", "required", "options"]
    rw [ofJson?, hr]
    simp [Record.required?, Record.withDefault?, hget, List.lookup_cons, hfield, hcopy.string,
      hcopy.bool, hcopy.named, hcopy.array, Json.asString?, Json.asBool?, Json.asArray?, mapValues]

theorem Aggregation.ofJson?_copy {a : Aggregation} (h : a.field.Readable) :
    ofJson? (copy a.toJson) = some a := by
  have hfield := FieldRef.ofJson?_copy hcopy h
  obtain ⟨r, hr, hget⟩ :=
    hcopy.asRecord? (j := a.toJson) rfl (by simp) ["field", "function", "alias"]
  rw [ofJson?, hr]
  simp [Record.required?, hget, List.lookup_cons, hfield, hcopy.string, hcopy.named,
    Json.asString?]

theorem SortTarget.ofJson?_copy {t : SortTarget} (h : ∀ f, t = .field f → f.Readable) :
    ofJson? (copy t.toJson) = some t := by
  cases t with
  | field f =>
    rw [toJson, hcopy.entry, ofJson?, FieldRef.ofJson?_copy hcopy (h f rfl)]
    rfl
  | output name => rw [toJson, hcopy.entry, hcopy.string, ofJson?]

theorem SortEntry.ofJson?_copy {s : SortEntry} (h : ∀ f, s.target = .field f → f.Readable) :
    ofJson? (copy s.toJson) = some s := by
  have htarget := SortTarget.ofJson?_copy hcopy h
  obtain ⟨r, hr, hget⟩ := hcopy.asRecord? (j := s.toJson) rfl (by simp) ["target", "direction"]
  rw [ofJson?, hr]
  simp [Record.required?, Record.withDefault?, hget, List.lookup_cons, htarget, hcopy.named]

theorem Aggregations.ofJson?_copy {a : Aggregations} (hgroups : ∀ f ∈ a.groupBy, f.Readable)
    (hfunctions : ∀ g ∈ a.functions, g.field.Readable) : ofJson? (copy a.toJson) = some a := by
  have hgroups := hcopy.listOf?_eq_some FieldRef.toJson (f := id) fun f hf =>
    FieldRef.ofJson?_copy hcopy (hgroups f hf)
  have hfunctions := hcopy.listOf?_eq_some Aggregation.toJson (f := id) fun g hg =>
    Aggregation.ofJson?_copy hcopy (hfunctions g hg)
  rw [List.map_id] at hgroups hfunctions
  obtain ⟨r, hr, hget⟩ :=
    hcopy.asRecord? (j := a.toJson) rfl (by simp) ["group_by", "functions"]
  rw [ofJson?, hr]
  simp [Record.withDefault?, hget, List.lookup_cons, hgroups, hfunctions]

end Copies

theorem isSome_mapM {α β : Type} {f : β → Option α} {bs : List β} :
    (bs.mapM f).isSome = true ↔ ∀ b ∈ bs, (f b).isSome = true := by
  induction bs with
  | nil => simp
  | cons b bs ih =>
    rw [List.forall_mem_cons, ← ih, List.mapM_cons]
    cases f b <;> cases bs.mapM f <;> simp

/-- Sources are read exactly if the conditions of their joins are. -/
theorem Sources.isSome_ofJson? {copy : Json → Json} (hcopy : Json.IsCopy copy) {s : Sources} :
    (ofJson? (copy s.toJson)).isSome = true ↔
      ∀ j ∈ s.joins, (FieldRef.parse? j.left.fullName).isSome = true ∧
        (FieldRef.parse? j.right.fullName).isSome = true := by
  rw [ofJson?_copy hcopy, Option.isSome_map, isSome_mapM]
  refine forall₂_congr fun j _ => ?_
  rw [Join.ofJson?_copy hcopy]
  cases FieldRef.parse? j.left.fullName <;> cases FieldRef.parse? j.right.fullName <;> simp

/-! ## Depth -/

theorem Join.readable_toJson (j : Join) : j.toJson.Readable 2 := by
  refine .object ?_
  rw [List.forall_mem_cons, List.forall_mem_cons, List.forall_mem_singleton]
  refine ⟨.string _, .string _, .array ?_⟩
  rw [List.forall_mem_cons, List.forall_mem_singleton]
  exact ⟨.string _, .string _⟩

theorem Sources.readable_toJson (s : Sources) : s.toJson.Readable 4 := by
  refine .object ?_
  rw [List.forall_mem_cons, List.forall_mem_singleton]
  exact ⟨.string _, .array (List.forall_mem_map.mpr fun j _ => j.readable_toJson)⟩

theorem Column.readable_toJson {c : Column} {depth : Nat} (h : c.expr.toJson.Readable depth) :
    c.toJson.Readable (depth + 1) := by
  refine .object ?_
  rw [List.forall_mem_append, List.forall_mem_append, List.forall_mem_cons, List.forall_mem_cons,
    List.forall_mem_singleton, List.forall_mem_singleton]
  refine ⟨⟨⟨h, .string _, .string _⟩, ?_⟩, .string _⟩
  cases c.aggregate with
  | none => exact List.forall_mem_nil _
  | some f => exact List.forall_mem_singleton.mpr (.string _)

theorem FilterSlot.readable_toJson {s : FilterSlot} {depth : Nat}
    (h : ∀ o ∈ s.options, o.Readable depth) : s.toJson.Readable (depth + 2) := by
  refine .object ?_
  rw [List.forall_mem_append, List.forall_mem_cons, List.forall_mem_cons, List.forall_mem_cons,
    List.forall_mem_singleton]
  refine ⟨⟨.string _, .string _, .string _, .bool _⟩, ?_⟩
  split
  · exact List.forall_mem_nil _
  · exact List.forall_mem_singleton.mpr (.array h)

theorem Aggregations.readable_toJson (a : Aggregations) : a.toJson.Readable 3 := by
  refine .object ?_
  rw [List.forall_mem_cons, List.forall_mem_singleton]
  refine ⟨.array (List.forall_mem_map.mpr fun f _ => .string _),
    .array (List.forall_mem_map.mpr fun g _ => .object ?_)⟩
  rw [List.forall_mem_cons, List.forall_mem_cons, List.forall_mem_singleton]
  exact ⟨.string _, .string _, .string _⟩

theorem SortEntry.readable_toJson (s : SortEntry) : s.toJson.Readable 2 := by
  refine .object ?_
  rw [List.forall_mem_cons, List.forall_mem_singleton]
  refine ⟨?_, .string _⟩
  cases s.target <;> exact .object (List.forall_mem_singleton.mpr (.string _))

/-! ## Layouts -/

namespace Layout

/-- A layout with its constants and options changed. -/
def mapValues (change : Json → Json) (l : Layout) : Layout :=
  { l with
    columns := l.columns.map (·.mapValues change)
    filters := l.filters.map (·.mapValues change) }

/-- A layout whose fields have proper names is read if its sources are. -/
theorem ofJson?_copy {copy : Json → Json} (hcopy : Json.IsCopy copy) {l : Layout}
    (h : ∀ f ∈ l.fields, f.Readable) : ofJson? (copy l.toJson) =
      (Sources.ofJson? (copy l.sources.toJson)).map fun sources =>
        { l.mapValues copy with sources } := by
  have hcolumns : Json.listOf? Column.ofJson? (copy (.array (l.columns.map Column.toJson)))
      = some (l.columns.map (·.mapValues copy)) := by
    refine hcopy.listOf?_eq_some Column.toJson fun col hcol => ?_
    exact Column.ofJson?_copy hcopy fun f hf => h f (Layout.mem_fields.mpr (.inl ⟨col, hcol, hf⟩))
  have hfilters : Json.listOf? FilterSlot.ofJson? (copy (.array (l.filters.map FilterSlot.toJson)))
      = some (l.filters.map (·.mapValues copy)) := by
    refine hcopy.listOf?_eq_some FilterSlot.toJson fun slot hslot => ?_
    exact FilterSlot.ofJson?_copy hcopy
      (h _ (Layout.mem_fields.mpr (.inr (.inl ⟨slot, hslot, rfl⟩))))
  have haggregations : Aggregations.ofJson? (copy l.aggregations.toJson) = some l.aggregations := by
    refine Aggregations.ofJson?_copy hcopy (fun f hf => h f ?_) fun g hg => h _ ?_
    · exact Layout.mem_fields.mpr (.inr (.inr (.inl hf)))
    · exact Layout.mem_fields.mpr (.inr (.inr (.inr (.inl ⟨g, hg, rfl⟩))))
  have hsorting : Json.listOf? SortEntry.ofJson? (copy (.array (l.sorting.map SortEntry.toJson)))
      = some l.sorting := by
    have hentries := hcopy.listOf?_eq_some SortEntry.toJson (f := id) fun entry hentry =>
      SortEntry.ofJson?_copy hcopy fun f hf =>
        h f (Layout.mem_fields.mpr (.inr (.inr (.inr (.inr ⟨entry, hentry, hf⟩)))))
    rwa [List.map_id] at hentries
  obtain ⟨r, hr, hget⟩ := hcopy.asRecord? (j := l.toJson) rfl (by simp)
    ["data_sources", "columns", "filters", "aggregations", "sorting"]
  rw [ofJson?, hr]
  cases hsources : Sources.ofJson? (copy l.sources.toJson) <;>
    simp [Record.required?, Record.withDefault?, hget, List.lookup_cons, hsources, hcolumns,
      hfilters, haggregations, hsorting, mapValues]

/-- A layout that can be read but for the conditions of its joins: the names of its fields are
proper ones, and neither its constants nor its options nest too deep. -/
structure Readable (l : Layout) : Prop where
  fields : ∀ f ∈ l.fields, f.Readable
  exprs : ∀ col ∈ l.columns, col.expr.Readable (maxExprDepth + 1)
  options : ∀ slot ∈ l.filters, ∀ o ∈ slot.options, o.Readable (Json.depthLimit - 4)

variable {l : Layout}

/-- Only the values of columns and the options of filters can nest too deep. -/
theorem readable_toJson
    (hexprs : ∀ col ∈ l.columns, col.expr.toJson.Readable (Json.depthLimit - 3))
    (hoptions : ∀ slot ∈ l.filters, ∀ o ∈ slot.options, o.Readable (Json.depthLimit - 4)) :
    l.toJson.Readable Json.depthLimit := by
  have hsources : l.sources.toJson.Readable 126 := l.sources.readable_toJson.mono (by decide)
  have hcolumns : (Json.array (l.columns.map Column.toJson)).Readable 126 := by
    refine .array (List.forall_mem_map.mpr fun col hcol => ?_)
    exact Column.readable_toJson (hexprs col hcol)
  have hfilters : (Json.array (l.filters.map FilterSlot.toJson)).Readable 126 := by
    refine .array (List.forall_mem_map.mpr fun slot hslot => ?_)
    exact FilterSlot.readable_toJson (hoptions slot hslot)
  have haggregations : l.aggregations.toJson.Readable 126 :=
    l.aggregations.readable_toJson.mono (by decide)
  have hsorting : (Json.array (l.sorting.map SortEntry.toJson)).Readable 126 := by
    refine .array (List.forall_mem_map.mpr fun entry _ => ?_)
    exact entry.readable_toJson.mono (by decide)
  refine .object ?_
  simp only [List.forall_mem_cons, List.not_mem_nil, false_imp_iff, forall_const]
  exact ⟨hsources, hcolumns, hfilters, haggregations, hsorting, trivial⟩

/-- Nothing in such a layout nests too deep. -/
theorem Readable.toJson (h : l.Readable) : l.toJson.Readable Json.depthLimit :=
  readable_toJson (fun col hcol => (h.exprs col hcol).toJson.mono (by decide)) h.options

/-- **The text of such a layout can be read exactly if the conditions of its joins can.** -/
theorem Readable.isSome_read (h : l.Readable) :
    ((Json.parse? l.text).bind ofJson?).isSome = true ↔
      ∀ j ∈ l.sources.joins, (FieldRef.parse? j.left.fullName).isSome = true ∧
        (FieldRef.parse? j.right.fullName).isSome = true := by
  rw [text, Json.parse?_of_readable h.toJson, Option.bind_some,
    ofJson?_copy Json.isCopy_reread h.fields, Option.isSome_map,
    Sources.isSome_ofJson? Json.isCopy_reread]

end Layout

end TenantReports
