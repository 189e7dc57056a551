import TenantReports.Proofs.Sql.Quoting
import TenantReports.Proofs.Sql.Vocabulary

/-!
# Creating indexes

A database reads the text that creates an index, and makes the index unless it has one of that
name. Then the text fails, or it does nothing, if it says so. So a number of such texts makes every
one of its indexes exactly if no two of them have one name, and none has that of an index that was
there before.

Which names are one is up to the database: some do not tell the cases of letters apart, some cut
names short, and in some each table has names of its own. It is a parameter. The tables and columns
are taken to be there.

## Main definitions

* `Index`, `Creation`: an index, and what a text asks for
* `creation?`: what a database reads in a text
* `create?`, `createAll?`: the indexes of a database after one text, after several

## Main results

* `creation?_createIndex`: the text of an index reads as that index
* `createAll?_eq_append`: when all indexes are made
-/

namespace TenantReports.Sql

/-- An index of a database. -/
structure Index where
  name : String
  table : String
  columns : List String
deriving DecidableEq, Repr

/-- An index to be made, or to be left out if there is one of its name. -/
structure Creation where
  index : Index
  skips : Bool
deriving DecidableEq, Repr

/-- The text that creates an index. -/
def Index.sql (i : Index) (d : Dialect) : String := createIndex d i.name i.table i.columns

/-- What a database reads in a text that creates an index: the names in quotes are that of the
index, that of the table and those of the columns. -/
def creation? (d : Dialect) (text : String) : Option Creation := do
  let segments ← segments? d none text.toList
  let name :: table :: columns := (quotedContents segments).map fun q => String.ofList q.2 | none
  let start := bareText segments
  if "CREATE INDEX IF NOT EXISTS ".toList.isPrefixOf start then some ⟨⟨name, table, columns⟩, true⟩
  else if "CREATE INDEX ".toList.isPrefixOf start then some ⟨⟨name, table, columns⟩, false⟩
  else none

/-! ## Reading -/

theorem spaced_createIndexTokens (d : Dialect) (name table : String) (columns : List String) :
    Spaced (createIndexTokens d name table columns) := by
  have hcolumns : Spaced (parenthesized (columns.map fun c => [.ident c])) := by
    refine spaced_parenthesized (List.forall_mem_map.mpr fun c _ => ?_)
    exact .singleton _
  have hnames : Spaced ([.ident name, .space, .keyword .on, .space, .ident table, .space]
      ++ parenthesized (columns.map fun c => [.ident c])) := by
    refine Spaced.quoted (Spaced.cons (Spaced.cons (Spaced.cons ?_ rfl) rfl) rfl) rfl
    exact Spaced.quoted (Spaced.cons hcolumns rfl) rfl
  have hrest : Spaced ((if d.hasIfNotExists then
      [.keyword .if, .space, .keyword .not, .space, .keyword .exists, .space] else [])
        ++ ([.ident name, .space, .keyword .on, .space, .ident table, .space]
          ++ parenthesized (columns.map fun c => [.ident c]))) := by
    split
    · exact (((((hnames.cons rfl).cons rfl).cons rfl).cons rfl).cons rfl).cons rfl
    · exact hnames
  unfold createIndexTokens
  rw [List.append_assoc, List.append_assoc]
  exact (((hrest.cons rfl).cons rfl).cons rfl).cons rfl

theorem within_createIndexTokens {V : Vocabulary} (d : Dialect) {name table : String}
    {columns : List String} (hname : V.names name) (htable : V.names table)
    (hcolumns : ∀ c ∈ columns, V.names c) : Within V (createIndexTokens d name table columns) := by
  have hlist : Within V (parenthesized (columns.map fun c => [.ident c])) := by
    refine within_parenthesized (List.forall_mem_map.mpr fun c hc => ?_)
    simpa [Token.In] using hcolumns c hc
  unfold createIndexTokens
  split <;> simp [Token.In, hname, htable, hlist]

theorem quotedContents_createIndexTokens (d : Dialect) (name table : String)
    (columns : List String) :
    (createIndexTokens d name table columns).filterMap (Token.quotedAs? d)
      = (name :: table :: columns).map fun n => (d.identQuote, n.toList) := by
  have hcolumns : (joined (columns.map fun c => [Token.ident c])).filterMap (Token.quotedAs? d)
      = columns.map fun n => (d.identQuote, n.toList) := by
    induction columns with
    | nil => rfl
    | cons c cs ih =>
      cases cs with
      | nil => rfl
      | cons c' cs =>
        rw [List.map_cons] at ih
        rw [List.map_cons, List.map_cons, joined]
        · exact congrArg (_ :: ·) ih
        · exact List.cons_ne_nil _ _
  simp only [createIndexTokens, parenthesized, List.filterMap_append, List.filterMap_cons,
    List.filterMap_nil, Token.quotedAs?, hcolumns, List.append_nil]
  split <;> simp [Token.quotedAs?]

/-- **The text of an index reads as that index**, whatever characters the names have. -/
theorem creation?_createIndex (d : Dialect) (i : Index) :
    creation? d (i.sql d) = some ⟨i, d.hasIfNotExists⟩ := by
  obtain ⟨name, table, columns⟩ := i
  -- no function is called
  have hwithin : Within ⟨fun _ => True, fun _ => False, fun _ => False⟩
      (createIndexTokens d name table columns) :=
    within_createIndexTokens d trivial trivial fun _ _ => trivial
  have hplain : ∀ t ∈ createIndexTokens d name table columns, t.isPlain = true := by
    intro t ht
    cases t with
    | function f => exact (hwithin _ ht).elim
    | _ => rfl
  have hsegments : segments? d none (createIndex d name table columns).toList
      = some (tokenSegments d 1 (createIndexTokens d name table columns)) := by
    rw [createIndex, render, String.toList_ofList]
    exact segments?_renderChars d (spaced_createIndexTokens d name table columns) hplain 1
  have hnames : (quotedContents (tokenSegments d 1 (createIndexTokens d name table columns))).map
      (fun q => String.ofList q.2) = name :: table :: columns := by
    rw [quotedContents_tokenSegments, quotedContents_createIndexTokens, List.map_map]
    simp [Function.comp_def]
  unfold creation? Index.sql
  dsimp only
  rw [hsegments, Option.bind_eq_bind, Option.bind_some, hnames]
  cases d <;> rfl

/-! ## Making indexes -/

section Make

variable (d : Dialect) (same : Index → Index → Bool)

/-- The indexes of a database after a text that creates one, unless the text fails. `same` says
which indexes have one name. -/
def create? (text : String) (made : List Index) : Option (List Index) := do
  let c ← creation? d text
  if made.any (same · c.index) then
    if c.skips then some made else none
  else some (made ++ [c.index])

/-- The indexes after one text after the other. -/
def createAll? : List String → List Index → Option (List Index)
  | [], made => some made
  | text :: texts, made => (create? d same text made).bind (createAll? texts)

variable {d same}

/-- What the text of an index does. -/
theorem create?_sql (i : Index) (made : List Index) :
    create? d same (i.sql d) made =
      if made.any (same · i) then
        if d.hasIfNotExists then some made else none
      else some (made ++ [i]) := by
  rw [create?, creation?_createIndex]
  rfl

/-- An index is made, if there is none of its name. -/
theorem create?_of_new {i : Index} {made : List Index} (h : ∀ j ∈ made, same j i = false) :
    create? d same (i.sql d) made = some (made ++ [i]) := by
  rw [create?_sql, if_neg]
  intro hany
  obtain ⟨j, hj, hsame⟩ := List.any_eq_true.mp hany
  exact Bool.false_ne_true ((h j hj).symm.trans hsame)

/-- If there is one, nothing is made, and the text fails unless it says to leave the index out. -/
theorem create?_of_there {i j : Index} {made : List Index} (hj : j ∈ made) (h : same j i = true) :
    create? d same (i.sql d) made = if d.hasIfNotExists then some made else none := by
  rw [create?_sql, if_pos (List.any_eq_true.mpr ⟨j, hj, h⟩)]

/-- A text makes at most one index. -/
theorem length_create?_le {i : Index} {made made' : List Index}
    (h : create? d same (i.sql d) made = some made') : made'.length ≤ made.length + 1 := by
  rw [create?_sql] at h
  split at h
  · split at h
    · obtain rfl := Option.some.inj h
      exact Nat.le_succ _
    · cases h
  · obtain rfl := Option.some.inj h
    rw [List.length_append, List.length_singleton]

theorem length_createAll?_le {is made made' : List Index}
    (h : createAll? d same (is.map (·.sql d)) made = some made') :
    made'.length ≤ made.length + is.length := by
  induction is generalizing made with
  | nil =>
    obtain rfl := Option.some.inj h
    exact Nat.le_refl _
  | cons i is ih =>
    rw [List.map_cons, createAll?, Option.bind_eq_some_iff] at h
    obtain ⟨next, hnext, hrest⟩ := h
    have hfirst := length_create?_le hnext
    have hlater := ih hrest
    rw [List.length_cons]
    omega

/-- **All indexes are made exactly if none of them has the name of one that is there, or of one
before it.** -/
theorem createAll?_eq_append {is made : List Index} :
    createAll? d same (is.map (·.sql d)) made = some (made ++ is) ↔
      (∀ j ∈ made, ∀ i ∈ is, same j i = false) ∧ is.Pairwise (same · · = false) := by
  induction is generalizing made with
  | nil => simp [createAll?]
  | cons i is ih =>
    rw [List.map_cons, createAll?]
    by_cases hnew : ∀ j ∈ made, same j i = false
    · have hmade : made ++ i :: is = made ++ [i] ++ is := by simp
      rw [create?_of_new hnew, Option.bind_some, hmade, ih, List.pairwise_cons]
      simp only [List.forall_mem_append, List.forall_mem_singleton, List.forall_mem_cons]
      constructor
      · rintro ⟨⟨hmade, hi⟩, his⟩
        exact ⟨fun j hj => ⟨hnew j hj, hmade j hj⟩, hi, his⟩
      · rintro ⟨hmade, hi, his⟩
        exact ⟨⟨fun j hj => (hmade j hj).2, hi⟩, his⟩
    · constructor
      · -- the first text makes nothing, and each of the others one index at most
        intro h
        simp only [not_forall, Bool.not_eq_false] at hnew
        obtain ⟨j, hj, hsame⟩ := hnew
        rw [create?_of_there hj hsame] at h
        split at h
        · rw [Option.bind_some] at h
          have hlength := length_createAll?_le h
          simp only [List.length_append, List.length_cons] at hlength
          omega
        · cases h
      · rintro ⟨hmade, -⟩
        exact absurd (fun j hj => hmade j hj i List.mem_cons_self) hnew

end Make

end TenantReports.Sql
