import TenantReports.Catalog.Builtin
import TenantReports.Catalog.Reader
import TenantReports.Proofs.Outcome

/-!
# Names of catalogs

Every name of a loaded catalog that can stand for a source, a table, a tenant column or a column is
a plain identifier. What a relation names is not checked, and need not be one.

## Main definitions

* `Source.Plain`, `Catalog.Plain`: the names of a source, of a catalog are identifiers
* `Catalog.Loaded`: the built-in catalog, or one that a document denotes

## Main results

* `isIdentifier_append`: an identifier goes on with letters, digits and underscores
* `Catalog.Loaded.plain`: the names of a loaded catalog are identifiers
-/

namespace TenantReports

/-! ## Identifiers -/

theorem isIdentifierPart_of_isIdentifier {f : String} (h : isIdentifier f = true) :
    ∀ c ∈ f.toList, isIdentifierPart c = true := by
  unfold isIdentifier at h
  cases hf : f.toList with
  | nil => exact List.forall_mem_nil _
  | cons c cs =>
    rw [hf, isIdentifierChars, Bool.and_eq_true, List.all_eq_true] at h
    refine List.forall_mem_cons.mpr ⟨?_, h.2⟩
    -- what may begin an identifier may also follow in it
    rw [isIdentifierPart, Char.isAlphanum]
    rcases Bool.or_eq_true _ _ ▸ h.1 with hletter | hunderscore
    · rw [hletter, Bool.true_or, Bool.true_or]
    · rw [hunderscore, Bool.or_true]

/-- An identifier goes on with letters, digits and underscores. -/
theorem isIdentifier_append {s t : String} (hs : isIdentifier s = true)
    (ht : ∀ c ∈ t.toList, isIdentifierPart c = true) : isIdentifier (s ++ t) = true := by
  unfold isIdentifier at hs ⊢
  rw [String.toList_append]
  cases hchars : s.toList with
  | nil => simp [hchars, isIdentifierChars] at hs
  | cons c cs =>
    rw [hchars, isIdentifierChars, Bool.and_eq_true] at hs
    rw [List.cons_append, isIdentifierChars, List.all_append, hs.1, hs.2, Bool.true_and,
      Bool.true_and]
    exact List.all_eq_true.mpr ht

/-- An underscore after an identifier. -/
theorem isIdentifier_underscore {s : String} (hs : isIdentifier s = true) :
    isIdentifier (s ++ "_") = true := by
  have hchars : "_".toList = ['_'] := rfl
  apply isIdentifier_append hs
  rw [hchars]
  simp [isIdentifierPart]

/-- Two identifiers with an underscore between them are one. -/
theorem isIdentifier_joined {s t : String} (hs : isIdentifier s = true)
    (ht : isIdentifier t = true) : isIdentifier (s ++ "_" ++ t) = true :=
  isIdentifier_append (isIdentifier_underscore hs) (isIdentifierPart_of_isIdentifier ht)

/-! ## Sources -/

/-- The names of a field are identifiers. -/
structure SourceField.Plain (f : SourceField) : Prop where
  key : isIdentifier f.key = true
  columnName : isIdentifier f.columnName = true

/-- The names of a source and of its fields are identifiers; a table and a tenant column may also
be empty. -/
structure Source.Plain (s : Source) : Prop where
  key : isIdentifier s.key = true
  table : s.table = "" ∨ isIdentifier s.table = true
  tenantColumn : s.tenantColumn = "" ∨ isIdentifier s.tenantColumn = true
  fields : ∀ f ∈ s.fields, f.Plain

/-- The names of a catalog's sources are identifiers. -/
def Catalog.Plain (c : Catalog) : Prop := ∀ s ∈ c.sources, s.Plain

theorem SourceField.plain_of_check {f : SourceField} (h : f.check = .ok ()) : f.Plain := by
  unfold SourceField.check at h
  cases hkey : isIdentifier f.key with
  | false => simp [hkey, throw, throwThe, MonadExceptOf.throw] at h
  | true =>
    refine ⟨hkey, ?_⟩
    cases hcolumn : f.column with
    | none =>
      rw [SourceField.columnName, hcolumn]
      exact hkey
    | some column =>
      rw [SourceField.columnName, hcolumn]
      by_contra hname
      simp_all [throw, throwThe, MonadExceptOf.throw]

theorem Source.checkName_eq_ok {kind name : String} {u : Unit} :
    checkName kind name = .ok u ↔ name = "" ∨ isIdentifier name = true := by
  unfold checkName
  split
  next h => simp [h]
  next h => simp [h, throw, throwThe, MonadExceptOf.throw]

/-- **A source that passes its check is plain.** -/
theorem Source.plain_of_check {s : Source} (h : s.check = .ok ()) : s.Plain := by
  unfold Source.check at h
  cases hkey : isIdentifier s.key with
  | false => simp [hkey, throw, throwThe, MonadExceptOf.throw] at h
  | true =>
    simp only [hkey, Bool.not_true, Bool.false_eq_true, if_false, Except.bind_eq_ok,
      Source.checkName_eq_ok, Except.forM_eq_ok] at h
    obtain ⟨-, htable, -, htenant, -, hfields, -⟩ := h
    exact ⟨hkey, htable, htenant, fun f hf => f.plain_of_check (hfields f hf)⟩

/-! ## Catalogs -/

namespace Catalog

/-- The built-in catalog, or one that a document denotes. -/
def Loaded (c : Catalog) : Prop := c = builtin ∨ ∃ text, ofToml text = .ok c

theorem plain_of_check {c : Catalog} (h : c.sources.forM Source.check = .ok ()) : c.Plain :=
  fun s hs => s.plain_of_check (Except.forM_eq_ok.mp h s hs)

theorem plain_of_ofToml {text : String} {c : Catalog} (h : ofToml text = .ok c) : c.Plain := by
  unfold ofToml at h
  split at h
  next sources hsources =>
    simp only [Except.bind_eq_ok, Except.pure_eq_ok] at h
    obtain ⟨⟨⟩, hcheck, rfl⟩ := h
    exact plain_of_check hcheck
  next => cases h

/-- **The names of a loaded catalog are identifiers.** -/
theorem Loaded.plain {c : Catalog} (h : c.Loaded) : c.Plain := by
  rcases h with rfl | ⟨text, htext⟩
  · exact plain_of_check (by decide +kernel)
  · exact plain_of_ofToml htext

end Catalog

end TenantReports
