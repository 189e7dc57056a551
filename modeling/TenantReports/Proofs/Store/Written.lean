import TenantReports.Proofs.Report.Built
import TenantReports.Proofs.Store.Texts
import TenantReports.Proofs.Time.Rfc3339

/-!
# Reports that are written and read back

A report is written first and read back from its row afterwards. Whether that succeeds depends on
the text of its layout alone, if the clock shows a plain time. Where it fails the row stays, and no
list that it belongs to can be read any more.

## Main definitions

* `Store.withReport`: a store with one row of a report more
* `DefinitionRow.edited`, `Definition.nextVersion`: what an update writes to a row

## Main results

* `DefinitionRow.isSome_read?_iff`: which texts of a row matter
* `Store.updateDefinition_of_current`: what an update is answered with
* `Store.exists_listDefinitions_withReport`, `Store.listDefinitions_of_unreadable`: lists after it
-/

namespace TenantReports

open Time (Instant)

/-! ## Rows -/

namespace DefinitionRow

/-- A row reads back if all of its texts do. -/
theorem isSome_read?_iff {r : DefinitionRow} : r.read?.isSome = true ↔
    ((Json.parse? r.layout).bind Layout.ofJson?).isSome = true ∧
      (readOptional? Time.parseRfc3339? r.lastExecutedAt).isSome = true ∧
      (Time.parseRfc3339? r.createdAt).isSome = true ∧
      (Time.parseRfc3339? r.updatedAt).isSome = true := by
  simp only [read?, Option.isSome_iff_exists, Option.bind_eq_bind, Option.bind_eq_some_iff,
    Option.pure_def, Option.some.injEq]
  constructor
  · rintro ⟨_, _, h₁, _, h₂, _, h₃, _, h₄, -⟩
    exact ⟨⟨_, h₁⟩, ⟨_, h₂⟩, ⟨_, h₃⟩, ⟨_, h₄⟩⟩
  · rintro ⟨⟨_, h₁⟩, ⟨_, h₂⟩, ⟨_, h₃⟩, ⟨_, h₄⟩⟩
    exact ⟨_, _, h₁, _, h₂, _, h₃, _, h₄, rfl⟩

/-- The layout of a report that was read is the one that its text denotes. -/
theorem layout_of_read? {r : DefinitionRow} {d : Definition} (h : r.read? = some d) :
    (Json.parse? r.layout).bind Layout.ofJson? = some d.layout := by
  simp only [read?, Option.bind_eq_bind, Option.bind_eq_some_iff, Option.pure_def,
    Option.some.injEq] at h
  obtain ⟨layout, hlayout, _, -, _, -, _, -, rfl⟩ := h
  exact Option.bind_eq_some_iff.mpr hlayout

/-- A report that has just been made can be read exactly if its layout can. -/
theorem isSome_read?_ofDefinition {d : Definition} (hnew : d.lastExecutedAt = none)
    (hcreated : d.createdAt.Plain) (hupdated : d.updatedAt.Plain) :
    (ofDefinition d).read?.isSome = true ↔ d.layout.Legible := by
  rw [isSome_read?_iff]
  dsimp only [ofDefinition]
  rw [hnew]
  exact and_iff_left ⟨rfl, Time.isSome_parseRfc3339? hcreated, Time.isSome_parseRfc3339? hupdated⟩

@[simp] theorem ofDefinition_layout (d : Definition) : (ofDefinition d).layout = d.layout.text :=
  rfl

theorem layout_of_read?_ofDefinition {d d' : Definition} (h : (ofDefinition d).read? = some d') :
    (Json.parse? d.layout.text).bind Layout.ofJson? = some d'.layout := by
  rw [← ofDefinition_layout]
  exact layout_of_read? h

/-- What a row says of a report is what the report says, with the digest of its layout. -/
theorem info_of_read?_ofDefinition {d d' : Definition} (h : (ofDefinition d).read? = some d') :
    d'.toReportInfo = { d.toReportInfo with hash := d.layout.hash } := info_of_read? h

/-- What an update writes to a row. -/
def edited (d : Definition) (version : Int) (now : Instant) (r : DefinitionRow) : DefinitionRow :=
  { r with
    name := d.name, description := d.description, category := d.category
    layout := d.layout.text, shared := d.shared, favorite := d.favorite
    version, hash := d.layout.hash, updatedAt := Time.rfc3339Micros now }

@[simp] theorem edited_layout (d : Definition) (version : Int) (now : Instant)
    (r : DefinitionRow) : (r.edited d version now).layout = d.layout.text := rfl

theorem layout_of_read?_edited {r : DefinitionRow} {d d' : Definition} {version : Int}
    {now : Instant} (h : (r.edited d version now).read? = some d') :
    (Json.parse? d.layout.text).bind Layout.ofJson? = some d'.layout := by
  rw [← edited_layout d version now r]
  exact layout_of_read? h

/-- What a row says of a report after an update. -/
theorem info_of_read?_edited {r : DefinitionRow} {current d d' : Definition} {version : Int}
    {now : Instant} (hr : r.read? = some current)
    (h : (r.edited d version now).read? = some d') :
    d'.toReportInfo = { current.toReportInfo with
      name := d.name, description := d.description, category := d.category
      shared := d.shared, favorite := d.favorite, version, hash := d.layout.hash } := by
  rw [info_of_read? h, info_of_read? hr]
  rfl

/-- A row that could be read can be read after an update exactly if the new layout can. -/
theorem isSome_read?_edited {r : DefinitionRow} (hr : r.read?.isSome = true) (d : Definition)
    (version : Int) {now : Instant} (hnow : now.Plain) :
    (r.edited d version now).read?.isSome = true ↔ d.layout.Legible := by
  obtain ⟨-, hlast, hcreated, -⟩ := isSome_read?_iff.mp hr
  rw [isSome_read?_iff]
  exact and_iff_left ⟨hlast, hcreated, Time.isSome_parseRfc3339? hnow⟩

end DefinitionRow

/-- The version of a report after its layout is replaced. -/
def Definition.nextVersion (current : Definition) (l : Layout) : Int :=
  if l.hash = current.hash then current.version else current.version + 1

namespace Store

variable {s : Store} {tenant user id : Int} {r : DefinitionRow}

/-! ## One report -/

theorem getDefinition_of_unreadable (hfind : s.definitionRow? tenant id = some r)
    (hread : r.read? = none) : s.getDefinition tenant id = .error .unreadable := by
  rw [getDefinition, hfind, readRow, hread]
  rfl

/-- A store with one row of a report more, which goes on with its id. -/
def withReport (s : Store) (r : DefinitionRow) : Store :=
  { s with definitions := s.definitions ++ [r], lastDefinition := r.id }

/-- No older row has the id of a new one. -/
theorem definitionRow?_withReport (hids : Numbered (s.definitions.map (·.id)) s.lastDefinition)
    (hid : r.id = s.lastDefinition + 1) :
    (s.withReport r).definitionRow? r.tenant r.id = some r :=
  find?_concat_of_numbered hids hid

/-- The row of a report after a change of it. -/
theorem definitionRow?_changeDefinition {f : DefinitionRow → DefinitionRow}
    (hf : ∀ r, (f r).isAt tenant id = r.isAt tenant id)
    (hfind : s.definitionRow? tenant id = some r) :
    (s.changeDefinition tenant id f).definitionRow? tenant id = some (f r) := by
  have hsame : ∀ r : DefinitionRow,
      (if r.isAt tenant id then f r else r).isAt tenant id = r.isAt tenant id := by
    intro r
    split
    · exact hf r
    · rfl
  rw [changeDefinition, definitionRow?_map s hsame, hfind, Option.map_some,
    if_pos (List.find?_some hfind)]

/-- An update is answered with what the row says after it, and what it writes stays if the row
says nothing. -/
theorem updateDefinition_of_current {d current : Definition}
    (h : s.getDefinition d.tenant d.id = .ok (some current)) (now : Instant) :
    ∃ r, s.definitionRow? d.tenant d.id = some r ∧ r.read? = some current ∧
      (s.changeDefinition d.tenant d.id
        (·.edited d (current.nextVersion d.layout) now)).definitionRow? d.tenant d.id
          = some (r.edited d (current.nextVersion d.layout) now) ∧
      s.updateDefinition d now
        = (orUnreadable (r.edited d (current.nextVersion d.layout) now).read?,
          s.changeDefinition d.tenant d.id (·.edited d (current.nextVersion d.layout) now)) := by
  obtain ⟨r, hfind, hread⟩ := readRow_eq_ok_some.mp h
  have hfind' := definitionRow?_changeDefinition (s := s)
    (f := (·.edited d (current.nextVersion d.layout) now)) (fun _ => rfl) hfind
  refine ⟨r, hfind, hread, hfind', ?_⟩
  have hupdate : s.updateDefinition d now = ((s.changeDefinition d.tenant d.id
      (·.edited d (current.nextVersion d.layout) now)).needDefinition d.tenant d.id,
      s.changeDefinition d.tenant d.id (·.edited d (current.nextVersion d.layout) now)) := by
    rw [updateDefinition, needDefinition_eq_ok.mpr h]
    rfl
  rw [hupdate, needDefinition_of_find hfind']

/-! ## Lists -/

/-- A report that can be read is one more in the lists that it belongs to. -/
theorem exists_listDefinitions_withReport {d : Definition} {ds : List Definition}
    (hlist : s.listDefinitions r.tenant r.user = .ok ds) (hread : r.read? = some d) :
    ∃ ds', (s.withReport r).listDefinitions r.tenant r.user = .ok ds' ∧ ds'.Perm (d :: ds) := by
  have hvisible : (r.tenant == r.tenant && (r.user == r.user || r.shared)) = true := by simp
  unfold listDefinitions at hlist ⊢
  dsimp only [withReport] at hlist ⊢
  rw [List.filter_append, List.filter_singleton, hvisible, cond_true]
  generalize (List.filter _ s.definitions) = rows at hlist ⊢
  -- whatever the order of a list is
  generalize (fun a b : DefinitionRow => _) = le at hlist ⊢
  have hread' : List.Forall₂ (fun (r : DefinitionRow) a => r.read? = some a)
      (r :: rows.mergeSort le) (d :: ds) := .cons hread (readRows_eq_ok.mp hlist)
  have hperm : ((rows ++ [r]).mergeSort le).Perm (r :: rows.mergeSort le) :=
    (List.mergeSort_perm _ _).trans
      ((List.perm_append_singleton _ _).trans ((List.mergeSort_perm _ _).symm.cons r))
  obtain ⟨ds', hds', hperm'⟩ := List.perm_comp_forall₂ hperm hread'
  exact ⟨ds', readRows_eq_ok.mpr hds', hperm'⟩

/-- A row that cannot be read stands in the way of the lists that it belongs to. -/
theorem listDefinitions_of_unreadable (hmem : r ∈ s.definitions) (hread : r.read? = none) :
    s.listDefinitions r.tenant r.user = .error .unreadable := by
  unfold listDefinitions
  dsimp only
  generalize hrows : List.mergeSort _ _ = rows
  have hr : r ∈ rows := by
    rw [← hrows, List.mem_mergeSort, List.mem_filter]
    exact ⟨hmem, by simp⟩
  rw [readRows]
  cases hall : rows.mapM DefinitionRow.read? with
  | none => rfl
  | some ds =>
    obtain ⟨d, -, hd⟩ := exists_right_of_forall₂ (Option.mapM_eq_some.mp hall) hr
    rw [hread] at hd
    cases hd

end Store

end TenantReports
