import TenantReports.Sql.Query

/-!
# What tokens write out

Keywords, symbols and layout are fixed, and a bound value is not written. What is left of the text
of a statement is its names, its functions and its literals. A vocabulary says which of these may
be written; the parts of a query that keep to it make tokens that do.

## Main definitions

* `Vocabulary`: names, functions and literals
* `Token.In`, `Expr.In`, `Query.In`: what keeps to a vocabulary

## Main results

* `Expr.In.call`, `Expr.In.isIn`, …: one for each form of an expression
* `Query.In.tokens`: the tokens of a query keep to what its parts do
-/

namespace TenantReports.Sql

/-- The names, functions and literals that may be written. -/
structure Vocabulary where
  names : String → Prop
  functions : String → Prop
  literals : Literal → Prop

variable {V : Vocabulary}

/-! ## Tokens -/

/-- What a token writes is in the vocabulary. -/
def Token.In (V : Vocabulary) : Token → Prop
  | .ident name => V.names name
  | .function f => V.functions f
  | .literal v => V.literals v
  | _ => True

/-- What tokens write is in the vocabulary. -/
def Within (V : Vocabulary) (ts : List Token) : Prop := ∀ t ∈ ts, t.In V

@[simp] theorem within_nil : Within V [] := List.forall_mem_nil _

@[simp] theorem within_cons {t : Token} {ts : List Token} :
    Within V (t :: ts) ↔ t.In V ∧ Within V ts := List.forall_mem_cons

@[simp] theorem within_append {ts us : List Token} :
    Within V (ts ++ us) ↔ Within V ts ∧ Within V us := List.forall_mem_append

@[simp] theorem within_spaced (k : Keyword) : Within V (spaced k) := by
  simp [spaced, Token.In]

theorem within_qualified {table : Option String} {t : Token} (htable : ∀ name ∈ table, V.names name)
    (ht : t.In V) : Within V (qualified table t) := by
  cases table with
  | none => simpa [qualified] using ht
  | some name => simpa [qualified, Token.In] using ⟨htable name rfl, ht⟩

theorem within_joined {items : List (List Token)} (h : ∀ ts ∈ items, Within V ts) :
    Within V (joined items) := by
  induction items with
  | nil => exact within_nil
  | cons ts rest ih =>
    have hfirst := h ts List.mem_cons_self
    have hrest := ih fun us hus => h us (List.mem_cons_of_mem ts hus)
    cases rest with
    | nil => exact hfirst
    | cons us rest => simpa [joined, Token.In] using ⟨hfirst, hrest⟩

theorem within_parenthesized {items : List (List Token)} (h : ∀ ts ∈ items, Within V ts) :
    Within V (parenthesized items) := by
  simpa [parenthesized, Token.In] using within_joined h

/-! ## Expressions -/

namespace Expr

/-- What an expression writes is in the vocabulary. -/
def In (V : Vocabulary) (e : Expr) : Prop := Within V e.tokens

theorem tokensOfList_eq_map (es : List Expr) : tokensOfList es = es.map tokens := by
  induction es with
  | nil => rfl
  | cons e es ih => rw [tokensOfList, ih, List.map_cons]

namespace In

variable {e low high pattern : Expr} {es : List Expr}

theorem column {table : Option String} {name : String} (htable : ∀ t ∈ table, V.names t)
    (hname : V.names name) : In V (.column table name) := by
  rw [In, tokens]
  exact within_qualified htable hname

/-- A bound value writes nothing. -/
theorem param (v : Literal) : In V (.param v) := by
  simp [In, tokens, Token.In]

theorem binary {op : BinaryOp} (hlow : In V low) (hhigh : In V high) :
    In V (.binary op low high) := by
  have hop : op.token.In V := by cases op <;> trivial
  simpa [In, tokens, Token.In] using ⟨hlow, hop, hhigh⟩

theorem items (h : ∀ a ∈ es, In V a) : Within V (parenthesized (tokensOfList es)) := by
  apply within_parenthesized
  intro ts hts
  rw [tokensOfList_eq_map] at hts
  obtain ⟨a, ha, rfl⟩ := List.mem_map.mp hts
  exact h a ha

theorem call {f : String} (hf : V.functions f) (hes : ∀ a ∈ es, In V a) : In V (.call f es) := by
  simpa [In, tokens, Token.In] using ⟨hf, items hes⟩

/-- A choice from no values is written as a comparison of two numbers. -/
theorem isIn (hnever : V.literals (.int 1) ∧ V.literals (.int 0)) (he : In V e)
    (hes : ∀ a ∈ es, In V a) : In V (.isIn e es) := by
  rw [In, tokens]
  split
  · simpa [neverTokens, Token.In] using hnever
  · simpa using ⟨he, items hes⟩

theorem between (he : In V e) (hlow : In V low) (hhigh : In V high) :
    In V (.between e low high) := by
  simpa [In, tokens] using ⟨he, hlow, hhigh⟩

theorem isNull (he : In V e) : In V (.isNull e) := by
  simpa [In, tokens, Token.In] using he

theorem like {escape : Char} (hescape : V.literals (.string (String.ofList [escape])))
    (he : In V e) (hpattern : In V pattern) : In V (.like e pattern escape) := by
  simpa [In, tokens, Token.In] using ⟨he, hpattern, hescape⟩

end In

end Expr

/-! ## Queries -/

/-- The names of a table are in the vocabulary. -/
structure TableRef.In (V : Vocabulary) (t : TableRef) : Prop where
  table : V.names t.table
  called : ∀ name ∈ t.called, V.names name

/-- What the parts of a query write is in the vocabulary. -/
structure Query.In (V : Vocabulary) (q : Query) : Prop where
  select : ∀ s ∈ q.select, s.expr.In V ∧ ∀ name ∈ s.called, V.names name
  source : ∀ t ∈ q.source, t.In V
  joins : ∀ j ∈ q.joins, j.table.In V ∧ j.on.In V
  condition : ∀ e ∈ q.condition, e.In V
  groupBy : ∀ e ∈ q.groupBy, e.In V
  orderBy : ∀ o ∈ q.orderBy, o.expr.In V
  limit : ∀ n ∈ q.limit, Within V (limitTokens n)

theorem within_aliasTokens {called : Option String} (h : ∀ name ∈ called, V.names name) :
    Within V (aliasTokens called) := by
  cases called with
  | none => exact within_nil
  | some name => simpa [aliasTokens, Token.In] using h name rfl

theorem TableRef.In.tokens {t : TableRef} (h : t.In V) : Within V t.tokens := by
  rw [TableRef.tokens, within_cons]
  exact ⟨h.table, within_aliasTokens h.called⟩

namespace Query

theorem within_selectTokens {items : List SelectItem}
    (h : ∀ s ∈ items, s.expr.In V ∧ ∀ name ∈ s.called, V.names name) :
    Within V (selectTokens items) := by
  have hitem : ∀ s ∈ items, Within V s.tokens := by
    intro s hs
    rw [SelectItem.tokens, within_append]
    exact ⟨(h s hs).1, within_aliasTokens (h s hs).2⟩
  clear h
  induction items with
  | nil => exact within_nil
  | cons s rest ih =>
    have hfirst := hitem s List.mem_cons_self
    have hrest := ih fun s' hs' => hitem s' (List.mem_cons_of_mem s hs')
    cases rest with
    | nil => simpa [selectTokens, Token.In] using hfirst
    | cons s' rest => simpa [selectTokens, Token.In] using ⟨hfirst, hrest⟩

theorem within_listClause {k : Keyword} {items : List (List Token)}
    (h : ∀ ts ∈ items, Within V ts) : Within V (listClause k items) := by
  unfold listClause
  split
  · exact within_nil
  · simpa [Token.In] using within_joined h

namespace In

variable {q : Query}

/-- **The tokens of a query keep to the vocabulary that its parts keep to.** -/
theorem tokens (h : q.In V) : Within V q.tokens := by
  have hjoins : Within V (q.joins.flatMap fun j => .newline :: j.tokens) := by
    intro t ht
    obtain ⟨j, hj, ht⟩ := List.mem_flatMap.mp ht
    have hj' : Within V (.newline :: j.tokens) := by
      simpa [JoinClause.tokens, Token.In] using ⟨(h.joins j hj).1.tokens, (h.joins j hj).2⟩
    exact hj' t ht
  have hgroupBy : Within V (listClause .groupBy (q.groupBy.map Expr.tokens)) :=
    within_listClause (List.forall_mem_map.mpr h.groupBy)
  have horderBy : Within V (listClause .orderBy (q.orderBy.map OrderItem.tokens)) := by
    refine within_listClause (List.forall_mem_map.mpr fun o ho => ?_)
    simpa [OrderItem.tokens, Token.In, Expr.In] using h.orderBy o ho
  have hselect := within_selectTokens h.select
  rw [Query.tokens]
  simp only [within_append, within_cons]
  refine ⟨⟨⟨⟨⟨⟨⟨trivial, hselect⟩, ?_⟩, hjoins⟩, ?_⟩, hgroupBy⟩, horderBy⟩, ?_⟩
  · cases hq : q.source with
    | none => exact within_nil
    | some t => simpa [Token.In] using (h.source t hq).tokens
  · cases hq : q.condition with
    | none => exact within_nil
    | some e => simpa [Token.In, Expr.In] using h.condition e hq
  · cases hq : q.limit with
    | none => exact within_nil
    | some n => simpa [Token.In] using h.limit n hq

/-- A further condition in the vocabulary. -/
theorem filter (h : q.In V) {e : Expr} (he : e.In V) : (q.filter e).In V := by
  refine { h with condition := ?_ }
  rintro _ ⟨⟩
  cases hcondition : q.condition with
  | none => exact he
  | some condition => exact .binary (h.condition condition hcondition) he

/-- Another limit, whose number is in the vocabulary. -/
theorem limited (h : q.In V) {limit : Option Nat} (hlimit : ∀ n ∈ limit, Within V (limitTokens n)) :
    Query.In V { q with limit } :=
  { h with limit := hlimit }

end In

end Query

end TenantReports.Sql
