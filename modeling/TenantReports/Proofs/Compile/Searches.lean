import TenantReports.Proofs.Compile.Narrowing
import TenantReports.Proofs.Compile.Vocabulary
import TenantReports.Proofs.Sql.Escapes

/-!
# Searching in MySQL

The condition of a text that is searched for names the escape of its pattern, the string that is one
backslash. It is the only string that compiled queries write. So MySQL reads the text of a compiled
and filtered query as it is written if no value searches for a text, and does not if one does: the
string of the escape is left open, and what comes after it is swallowed.

## Main definitions

* `Layout.IsSearch`, `Layout.Searches`: a value, some value of a map, searches for a text

## Main results

* `Layout.backslash_mem_tokens`: a query names an escape exactly if some value searches
* `Layout.escapedSegments?_of_searches`: then MySQL cannot read it
* `Layout.escapedSegments?_of_filtered`: MySQL reads what is written exactly if no value searches
-/

namespace TenantReports

open Sql (Expr Inert Literal Spaced Token backslash escapedSegments? quotedContents tokenSegments)

/-! ## Literals of queries -/

namespace Sql.Query

theorem toList_statement (q : Sql.Query) (d : Sql.Dialect) :
    (q.statement d).sql.toList = Sql.renderChars d 1 q.tokens := String.toList_ofList

variable {q : Sql.Query} {e : Expr} {v : Literal}

/-- The literals of a query are those of its condition, its limit and whatever else it has. -/
theorem literal_mem_tokens :
    .literal v ∈ q.tokens ↔ .literal v ∈ { q with condition := none, limit := none }.tokens ∨
      (∃ e ∈ q.condition, .literal v ∈ e.tokens) ∨
      ∃ n ∈ q.limit, v = .int (min n (Nat.pow 2 63 - 1)) := by
  obtain ⟨select, source, joins, condition, groupBy, orderBy, limit⟩ := q
  cases condition <;> cases limit <;>
    simp only [tokens, limitTokens, List.mem_append, List.mem_cons, List.not_mem_nil, reduceCtorEq,
      Token.literal.injEq, Option.mem_def, Option.some.injEq, exists_eq_left', false_and,
      exists_false, false_or, or_false] <;>
    tauto

/-- Those of a query with a further condition are those of both. -/
theorem literal_mem_tokens_filter :
    .literal v ∈ (q.filter e).tokens ↔ .literal v ∈ q.tokens ∨ .literal v ∈ e.tokens := by
  have hand : ∀ condition : Expr, .literal v ∈ (condition.and e).tokens ↔
      .literal v ∈ condition.tokens ∨ .literal v ∈ e.tokens := by
    simp [Expr.and, Expr.tokens, BinaryOp.token]
  rw [literal_mem_tokens, literal_mem_tokens (q := q), filter]
  cases q.condition with
  | none =>
    simp only [Option.mem_def, Option.some.injEq, exists_eq_left', reduceCtorEq, false_and,
      exists_false]
    grind
  | some condition =>
    simp only [Option.mem_def, Option.some.injEq, exists_eq_left', hand]
    grind

/-- A limit adds no string. -/
theorem string_mem_tokens_limited {limit : Option Nat} {s : String} :
    .literal (.string s) ∈ { q with limit }.tokens ↔ .literal (.string s) ∈ q.tokens := by
  rw [literal_mem_tokens, literal_mem_tokens (q := q)]
  simp

end Sql.Query

/-- So are those of a query with conditions added one by one. -/
theorem CompiledQuery.literal_mem_tokens_foldl {q : CompiledQuery} {es : List Expr} {v : Literal} :
    .literal v ∈ (es.foldl filter q).query.tokens ↔
      .literal v ∈ q.query.tokens ∨ ∃ e ∈ es, .literal v ∈ e.tokens := by
  -- what is added first is part of the query that the others are added to
  induction es generalizing q with
  | nil => simp
  | cons e es ih =>
    have hfilter : (q.filter e).query = q.query.filter e := rfl
    rw [List.foldl_cons, ih, hfilter, Sql.Query.literal_mem_tokens_filter]
    simp [or_assoc]

/-! ## Searches -/

/-- A search names its escape. -/
theorem FilterSlot.backslash_mem_tokens {slot : FilterSlot} {type : FieldType} {column e : Expr}
    {value : Json} (hkind : slot.kind = .text) (hvalue : value ≠ .null)
    (h : slot.predicate? type column value = some e) : backslash ∈ e.tokens := by
  have hlike : slot.valuePredicate? type column value = some e := by
    unfold predicate? at h
    split at h
    · exact absurd rfl hvalue
    · split at h
      · cases h
      · exact h
    · exact h
  rw [valuePredicate?, hkind] at hlike
  obtain ⟨needle, -, rfl⟩ := Option.map_eq_some_iff.mp hlike
  simp [Expr.tokens, backslash, likeEscape]

namespace Layout

variable {c : Catalog} {l : Layout} {values : FilterValues} {tenant : Int} {q : CompiledQuery}

/-- A value searches for a text: its key is the full name of a declared slot of texts, the catalog
has the field, its source is in scope, and the value is one of those that fit, other than `null`. -/
def IsSearch (l : Layout) (c : Catalog) (name : String) (value : Json) : Prop :=
  ∃ slot field, l.Declares name slot ∧ c.refField? slot.field = some field ∧
    slot.field.source ∈ l.sources.inScope ∧ slot.kind = .text ∧ value ≠ .null ∧ slot.Accepts value

/-- Some value searches for a text. -/
def Searches (l : Layout) (c : Catalog) (values : FilterValues) : Prop :=
  ∃ name value, (name, value) ∈ values ∧ l.IsSearch c name value

/-- The values that search are those whose conditions name an escape. -/
theorem isSearch_iff {name : String} {value : Json} : l.IsSearch c name value ↔
    ∃ e, l.filterPredicate? c l.sources.inScope name value = some e ∧ backslash ∈ e.tokens := by
  constructor
  · rintro ⟨slot, field, hslot, hfield, hscope, hkind, hvalue, haccepts⟩
    obtain ⟨e, he⟩ := Option.isSome_iff_exists.mp (FilterSlot.isSome_predicate.mpr haccepts)
    exact ⟨e, asks_iff.mp ⟨slot, field, hslot, hfield, hscope, he⟩,
      FilterSlot.backslash_mem_tokens hkind hvalue he⟩
  · rintro ⟨e, he, hmem⟩
    obtain ⟨slot, field, hslot, hfield, hscope, hpredicate⟩ := asks_iff.mpr he
    -- a string is among what the condition may write for a search only
    have hin : e.In (l.vocabularyWith c fun v => v = .int 1 ∨ v = .int 0 ∨
        slot.kind = .text ∧ value ≠ .null) :=
      FilterSlot.in_predicate ⟨.inl rfl, .inr (.inl rfl)⟩
        (fun hkind hvalue => .inr (.inr ⟨hkind, hvalue⟩))
        (Catalog.in_sourceColumn hscope hfield) hpredicate
    rcases hin backslash hmem with h | h | ⟨hkind, hvalue⟩
    · cases h
    · cases h
    · exact ⟨slot, field, hslot, hfield, hscope, hkind, hvalue,
        FilterSlot.isSome_predicate.mp (Option.isSome_of_eq_some hpredicate)⟩

/-- **A compiled and filtered query names an escape exactly if some value searches.** -/
theorem backslash_mem_tokens (h : l.filtered c tenant values = .ok q) (limit : Option Nat) :
    backslash ∈ { q.query with limit }.tokens ↔ l.Searches c values := by
  unfold filtered at h
  cases hcompile : l.compile c tenant with
  | error e => simp [hcompile, Except.map] at h
  | ok compiled =>
    rw [hcompile, Except.map, Except.ok.injEq] at h
    have hin : compiled.query.In (l.vocabularyWith c fun _ => False) := in_compile hcompile
    have hnone : backslash ∉ compiled.query.tokens := hin.tokens backslash
    rw [backslash, Sql.Query.string_mem_tokens_limited, ← h, CompiledQuery.applyFilters,
      CompiledQuery.literal_mem_tokens_foldl, scope_of_compile hcompile, ← backslash,
      or_iff_right hnone]
    simp only [filterPredicates, List.mem_filterMap, Prod.exists, Searches, isSearch_iff]
    tauto

/-! ## Reading as MySQL -/

/-- The functions that a statement may call are plain identifiers. -/
theorem isIdentifier_of_mem_functionNames :
    ∀ f ∈ functionNames, isIdentifier f = true := by decide

/-- And in MySQL they are inert. -/
theorem inert_functionText :
    ∀ f ∈ functionNames, Inert (Sql.Dialect.mysql.functionText f).toList := by
  decide

section Filtered

variable (h : l.filtered c tenant values = .ok q) (limit : Option Nat)

include h

theorem isPlain_of_filtered : ∀ t ∈ { q.query with limit }.tokens, t.isPlain = true := by
  intro t ht
  cases t with
  | function f =>
    have hf : f ∈ functionNames := (in_filtered h limit).tokens _ ht
    exact isIdentifier_of_mem_functionNames f hf
  | _ => rfl

/-- The one string that a query writes is the escape. -/
theorem eq_backslash_of_filtered {s : String}
    (hs : .literal (.string s) ∈ { q.query with limit }.tokens) :
    .literal (.string s) = backslash := by
  have hliteral := (in_filtered h limit).tokens _ hs
  rcases hliteral with hescape | hone | hzero | ⟨n, -, hn⟩
  · rw [hescape, backslash, likeEscape]
  · cases hone
  · cases hzero
  · cases hn

/-- Where names are plain identifiers, all that a query writes is inert but the escape. -/
theorem inert_of_filtered
    (hnames : ∀ name, .ident name ∈ { q.query with limit }.tokens → isIdentifier name = true) :
    ∀ t ∈ { q.query with limit }.tokens, t = backslash ∨ Inert (t.chars .mysql) := by
  intro t ht
  have hin := (in_filtered h limit).tokens t ht
  have hnumber : ∀ n : Nat, Inert (Token.chars .mysql (.literal (.int n))) := fun n =>
    .of_identifierPart (isIdentifierPart_intText n)
  cases t with
  | ident name => exact .inr (Sql.inert_ident (hnames name ht))
  | function f => exact .inr (inert_functionText f hin)
  | literal v =>
    rcases hin with rfl | rfl | rfl | ⟨n, -, rfl⟩
    · exact .inl (by rw [backslash, likeEscape])
    · exact .inr (hnumber 1)
    · exact .inr (hnumber 0)
    · obtain ⟨m, hm⟩ := Int.eq_ofNat_of_zero_le
        (le_min (Int.natCast_nonneg n) (by decide : (0 : Int) ≤ Nat.pow 2 63 - 1))
      rw [hm]
      exact .inr (hnumber m)
  | keyword k => exact .inr (by cases k <;> decide)
  | symbol s => exact .inr (by cases s <;> decide)
  | space | newline => exact .inr (by decide)
  | param v => exact .inr (by decide : Inert ['?'])
  | indent depth =>
    refine .inr fun ch hch => ?_
    rw [List.eq_of_mem_replicate hch]
    decide

/-- **A search is not closed**: where names are plain identifiers, MySQL cannot read the text of a
query with a search at all. -/
theorem escapedSegments?_of_searches (hsearches : l.Searches c values)
    (hnames : ∀ name, .ident name ∈ { q.query with limit }.tokens → isIdentifier name = true) :
    escapedSegments? none ({ q.query with limit }.statement .mysql).sql.toList = none := by
  rw [Sql.Query.toList_statement]
  exact Sql.escapedSegments?_eq_none_of_backslash (Sql.Query.spaced_tokens _)
    (isPlain_of_filtered h limit) (fun _ => eq_backslash_of_filtered h limit)
    ((backslash_mem_tokens h limit).mpr hsearches) (inert_of_filtered h limit hnames) 1

omit h in
/-- The names in a query are plain identifiers if its layout is built over a loaded catalog. -/
theorem isIdentifier_of_build {v : Validator} {d : Draft} {full : Bool}
    (hload : v.catalog.Loaded) (hbuild : v.build d full = .ok l)
    (h : l.filtered v.catalog tenant values = .ok q) {name : String}
    (hname : .ident name ∈ { q.query with limit }.tokens) : isIdentifier name = true := by
  have hpassed := Validator.passed_of_build hbuild
  have hin : l.Names v.catalog name := (in_filtered h limit).tokens _ hname
  exact hin.isIdentifier hload.plain hpassed.sources_valid
    (hpassed.isIdentifier_column hload.plain)

/-- **MySQL reads what is written exactly if no value searches for a text.** For every catalog,
every layout, every tenant, all values and every limit:
* if no value searches, the text is read as its tokens, each string and each name as what it is;
* if one does, the text is not read with the contents of its strings and names in its quotes;
* and if the layout is built over a loaded catalog, then the text is not read at all, as the last
  string is not closed. -/
theorem escapedSegments?_of_filtered :
    (¬ l.Searches c values →
      escapedSegments? none ({ q.query with limit }.statement .mysql).sql.toList
        = some (tokenSegments .mysql 1 { q.query with limit }.tokens) ∧
      quotedContents (tokenSegments .mysql 1 { q.query with limit }.tokens)
        = { q.query with limit }.tokens.filterMap (Token.quotedAs? .mysql)) ∧
    (l.Searches c values →
      (∀ segments,
        escapedSegments? none ({ q.query with limit }.statement .mysql).sql.toList
          = some segments →
        quotedContents segments
          ≠ { q.query with limit }.tokens.filterMap (Token.quotedAs? .mysql)) ∧
      ∀ (v : Validator) (d : Draft) (full : Bool), v.catalog = c → c.Loaded →
        v.build d full = .ok l →
          escapedSegments? none ({ q.query with limit }.statement .mysql).sql.toList = none) := by
  have hspaced : Spaced { q.query with limit }.tokens := Sql.Query.spaced_tokens _
  have hplain := isPlain_of_filtered h limit
  have hescape := backslash_mem_tokens h limit
  refine ⟨fun hnone => ⟨?_, Sql.quotedContents_tokenSegments ..⟩, fun hsearches => ⟨?_, ?_⟩⟩
  · -- there is no string at all
    have hstrings : ∀ s, .literal (.string s) ∉ { q.query with limit }.tokens := fun s hs =>
      hnone (hescape.mp (eq_backslash_of_filtered h limit hs ▸ hs))
    have hread := Sql.escapedSegments?_renderChars hspaced hplain
      (fun s hs => absurd hs (hstrings s)) 1 [] (by simp)
    rw [Sql.Query.toList_statement]
    simpa [escapedSegments?] using hread
  · intro segments hread
    rw [Sql.Query.toList_statement] at hread
    exact Sql.quotedContents_ne_of_backslash hspaced hplain
      (fun _ => eq_backslash_of_filtered h limit) (hescape.mpr hsearches) hread
  · rintro v d full rfl hload hbuild
    exact escapedSegments?_of_searches h limit hsearches fun _ =>
      isIdentifier_of_build limit hload hbuild h

end Filtered

/-- A search among the bills. -/
theorem searches_billsLayout :
    billsLayout.Searches .builtin [("customers.name", .string "x'; --")] := by
  have hslot : billsLayout.Declares "customers.name"
      ⟨⟨"customers", "name"⟩, "Name", .text, false, []⟩ := ⟨[], [], rfl, rfl, by decide⟩
  have haccepts : FilterSlot.Accepts ⟨⟨"customers", "name"⟩, "Name", .text, false, []⟩
      (.string "x'; --") := ⟨by decide, by decide, by simp⟩
  exact ⟨_, _, List.mem_cons_self, _, _, hslot, rfl, by decide, rfl, by simp, haccepts⟩

/-- The bills, which can be read without a search and not with one. -/
theorem escapedSegments?_of_filtered_billsLayout :
    ∃ bills found, billsLayout.filtered .builtin 7 [] = .ok bills ∧
      billsLayout.filtered .builtin 7 [("customers.name", .string "x'; --")] = .ok found ∧
      (escapedSegments? none
        ({ bills.query with limit := some 5 }.statement .mysql).sql.toList).isSome = true ∧
      escapedSegments? none ({ found.query with limit := some 5 }.statement .mysql).sql.toList
        = none := by
  have hnone : ¬ billsLayout.Searches .builtin [] := by
    rintro ⟨name, value, hmem, -⟩
    cases hmem
  obtain ⟨bills, hbills⟩ : ∃ q, billsLayout.filtered .builtin 7 [] = .ok q := ⟨_, rfl⟩
  obtain ⟨found, hfound⟩ : ∃ q,
      billsLayout.filtered .builtin 7 [("customers.name", .string "x'; --")] = .ok q := ⟨_, rfl⟩
  refine ⟨bills, found, hbills, hfound, ?_, ?_⟩
  · rw [((escapedSegments?_of_filtered hbills (some 5)).1 hnone).1, Option.isSome_some]
  · exact ((escapedSegments?_of_filtered hfound (some 5)).2 searches_billsLayout).2
      ⟨.builtin, {}⟩ billsDraft false rfl (.inl rfl) build_billsDraft

/-- A search for a text leaves a string of its statement open. -/
theorem exists_unclosed_search :
    ∃ q, billsLayout.filtered .builtin 7 [("customers.name", .string "x'; --")] = .ok q ∧
      escapedSegments? none ({ q.query with limit := some 5 }.statement .mysql).sql.toList
        = none := by
  obtain ⟨q, hq⟩ : ∃ q,
      billsLayout.filtered .builtin 7 [("customers.name", .string "x'; --")] = .ok q := ⟨_, rfl⟩
  refine ⟨q, hq, escapedSegments?_of_searches hq (some 5) searches_billsLayout ?_⟩
  exact fun _ => isIdentifier_of_build (some 5) (.inl rfl) build_billsDraft hq

end Layout

end TenantReports
