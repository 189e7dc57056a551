import TenantReports.Proofs.Report.ReadBack
import TenantReports.Proofs.Store.Agreement
import TenantReports.Proofs.Store.Written

/-!
# Editions of reports

The edition of a report is its version and its layout, with the digest. An update writes another
edition, whose version is one more if the digest is another; and the digest is another if the layout
is, unless SHA-256 collides on their texts.

## Main definitions

* `DefinitionRow.edition`: the columns that tell layout and version
* `DefinitionRow.Digested`: a row that tells the digest of its layout
* `DefinitionRow.Rewritten`: a row before and after an update to a layout
* `Store.SameEditions`: stores with the same editions of the same reports
* `Store.Replaces`: one report has another row
* `Store.digest?`: the digest of a report

## Main results

* `DefinitionRow.Digested.rewritten_edited`: what an update makes of a row
* `Store.SameEditions.digest?_eq`: the same editions have the same digests
* `Store.replaces_changeDefinition`: a change of a report replaces its row
-/

namespace TenantReports

open Time (Instant)

/-! ## Rows -/

namespace DefinitionRow

/-- The columns of a report that tell its layout and its version. -/
def edition (r : DefinitionRow) : Int × Int × Int × String × String :=
  (r.tenant, r.id, r.version, r.hash, r.layout)

/-- The row has the text of a layout, and its digest. -/
def Digested (r : DefinitionRow) : Prop := ∃ l : Layout, r.layout = l.text ∧ r.hash = l.hash

/-- What an update to the layout `l` makes of a row. The version is one more if the digest is
another. So it is if the layout is, unless the two texts have the same digest. -/
structure Rewritten (r : DefinitionRow) (l : Layout) (r' : DefinitionRow) : Prop where
  layout : r'.layout = l.text
  hash : r'.hash = l.hash
  version : r'.version = if l.hash = r.hash then r.version else r.version + 1
  raised : ∀ l₀ : Layout, r.layout = l₀.text → l₀ ≠ l → l₀.Proper → l.Proper → l₀.Finite →
    l.Finite → (l₀.hash = l.hash → l₀.text = l.text) → r'.version = r.version + 1

variable {r : DefinitionRow} {d : Definition}

theorem digested_ofDefinition (d : Definition) : (ofDefinition d).Digested := ⟨d.layout, rfl, rfl⟩

theorem edition_eq_iff {r r' : DefinitionRow} : r.edition = r'.edition ↔ r.tenant = r'.tenant ∧
    r.id = r'.id ∧ r.version = r'.version ∧ r.hash = r'.hash ∧ r.layout = r'.layout := by
  simp only [edition, Prod.mk.injEq]

theorem Digested.congr {r' : DefinitionRow} (h : r.Digested) (hhash : r.hash = r'.hash)
    (hlayout : r.layout = r'.layout) : r'.Digested := by
  unfold Digested
  rw [← hhash, ← hlayout]
  exact h

/-- A row that tells the digest of its layout tells that of every layout with its text. -/
theorem Digested.hash_eq (h : r.Digested) {l : Layout} (hl : r.layout = l.text) :
    r.hash = l.hash := by
  obtain ⟨l', hlayout, hhash⟩ := h
  rw [hhash, Layout.hash, Layout.hash, ← hlayout, hl]

/-- What is read of a row has its digest, where the layout is storable. -/
theorem hash_of_read? {l : Layout} (hlayout : r.layout = l.text) (hhash : r.hash = l.hash)
    (hl : l.Storable) (hread : r.read? = some d) : d.layout = l ∧ d.hash = d.layout.hash := by
  have hsame : some l = some d.layout := by
    rw [← hl.read, ← hlayout]
    exact layout_of_read? hread
  obtain rfl := Option.some.inj hsame
  refine ⟨rfl, ?_⟩
  rw [info_of_read? hread, hhash]

/-- **An update rewrites a row.** -/
theorem Digested.rewritten_edited (h : r.Digested) {current : Definition}
    (hcurrent : r.read? = some current) (now : Instant) :
    r.Rewritten d.layout (r.edited d (current.nextVersion d.layout) now) := by
  have hinfo := info_of_read? hcurrent
  have hversion : current.nextVersion d.layout
      = if d.layout.hash = r.hash then r.version else r.version + 1 := by
    rw [Definition.nextVersion, hinfo]
  refine ⟨rfl, rfl, hversion, fun l₀ hl₀ hne hproper₀ hproper hfinite₀ hfinite hcollides => ?_⟩
  have hdigest : d.layout.hash ≠ r.hash := by
    rw [h.hash_eq hl₀]
    intro heq
    exact hne (hproper₀.text_injective hproper hfinite₀ hfinite (hcollides heq.symm))
  exact hversion.trans (if_neg hdigest)

end DefinitionRow

/-! ## Stores -/

namespace Store

variable {s t : Store} {tenant id : Int}

/-- The editions of all reports are the same, row by row, and both stores go on with the same id. -/
structure SameEditions (s t : Store) : Prop where
  editions : t.definitions.map DefinitionRow.edition = s.definitions.map DefinitionRow.edition
  lastDefinition : t.lastDefinition = s.lastDefinition

theorem SameEditions.refl (s : Store) : s.SameEditions s := ⟨rfl, rfl⟩

theorem Agree.sameEditions {υ : Type} {schedule : ScheduleRow → υ}
    (h : s.Agree DefinitionRow.edition schedule t) : s.SameEditions t :=
  ⟨h.definitions, h.lastDefinition⟩

theorem SameEditions.exists_row (h : s.SameEditions t) {r : DefinitionRow}
    (hr : r ∈ t.definitions) : ∃ r₀ ∈ s.definitions, r₀.edition = r.edition := by
  rw [← List.mem_map, ← h.editions]
  exact List.mem_map_of_mem hr

theorem SameEditions.ids (h : s.SameEditions t) :
    t.definitions.map (·.id) = s.definitions.map (·.id) := by
  have hids := congrArg (List.map fun v => v.2.1) h.editions
  rwa [List.map_map, List.map_map] at hids

/-- Where the ids are the same, so are the reports that there are. -/
theorem exists_row_of_ids (hids : t.definitions.map (·.id) = s.definitions.map (·.id))
    {row : DefinitionRow} (hrow : row ∈ s.definitions) :
    ∃ row' ∈ t.definitions, row'.id = row.id := by
  rw [← List.mem_map, hids]
  exact List.mem_map_of_mem hrow

/-- The digest of a report, if it is there. -/
def digest? (s : Store) (tenant id : Int) : Option String :=
  (s.definitionRow? tenant id).map (·.hash)

theorem SameEditions.digest?_eq (h : s.SameEditions t) (tenant id : Int) :
    t.digest? tenant id = s.digest? tenant id := by
  have hrow := map_definitionRow?_eq (p := fun v => v.1 == tenant && v.2.1 == id) h.editions
    fun r => rfl
  have hhash := congrArg (Option.map fun v => v.2.2.2.1) hrow
  rwa [Option.map_map, Option.map_map] at hhash

/-- One report has another row, and the others have the rows that they had. -/
structure Replaces (row row' : DefinitionRow) (s t : Store) : Prop where
  found : s.definitionRow? row.tenant row.id = some row
  replaced : t.definitionRow? row.tenant row.id = some row'
  others : ∀ x ∈ t.definitions,
    x = row' ∨ (x ∈ s.definitions ∧ ¬ (row.tenant = x.tenant ∧ row.id = x.id))
  ids : t.definitions.map (·.id) = s.definitions.map (·.id)
  lastDefinition : t.lastDefinition = s.lastDefinition

theorem Replaces.same {row row' : DefinitionRow} (h : Replaces row row' s t) :
    row'.tenant = row.tenant ∧ row'.id = row.id :=
  DefinitionRow.isAt_iff.mp (List.find?_some h.replaced)

theorem replaces_changeDefinition {row : DefinitionRow} {f : DefinitionRow → DefinitionRow}
    (hids : Numbered (s.definitions.map (·.id)) s.lastDefinition)
    (hfind : s.definitionRow? row.tenant row.id = some row)
    (hf : ∀ r, (f r).tenant = r.tenant ∧ (f r).id = r.id) :
    Replaces row (f row) s (s.changeDefinition row.tenant row.id f) where
  found := hfind
  replaced := by
    refine definitionRow?_changeDefinition (fun r => ?_) hfind
    rw [DefinitionRow.isAt, (hf r).1, (hf r).2, DefinitionRow.isAt]
  others := by
    intro x hx
    obtain ⟨x₀, hx₀, rfl⟩ := List.mem_map.mp hx
    by_cases hat : x₀.isAt row.tenant row.id = true
    · obtain rfl : x₀ = row := hids.eq_of_id hx₀ (List.mem_of_find?_eq_some hfind)
        (DefinitionRow.isAt_iff.mp hat).2
      exact .inl (if_pos hat)
    · rw [if_neg hat]
      exact .inr ⟨hx₀, fun hsame => hat (DefinitionRow.isAt_iff.mpr (hsame.imp .symm .symm))⟩
  ids := s.changeDefinition_ids row.tenant row.id fun r => (hf r).2
  lastDefinition := rfl

end Store

end TenantReports
